import TensorShape.Proofs.Acceptance
import TensorShape.Proofs.Operations
import TensorShape.Proofs.Outlines

/-! # Plain integers

Six operations are handed integers: as dimensions, as axes, or as the bounds of a slice.  They do
with plain integers what they do with what stands for them (`Operation.coupled_run`).  The reason is
always the same.  An operation asks a value which integer it is, and a fine outline answers as the
value does (`integer?_fine`); and it names the kind of a value only if the value is no integer, when
the outline is of the same kind (`dimensionFrom_fine`).

Axes are compared with the rank before they are asked, so what stands for one has to compare with
integers, as a plain one does (`Operation.AxesCompare`). -/
namespace TensorShape

variable {g : Grain} {α β : Type}

namespace Value

/-- A fine outline is asked which integer it is, and answers as the value does. -/
@[simp] theorem integer?_fine (v : Value) : (v.outline .fine).integer? = v.integer? := by
  cases v <;> rfl

/-- No outline stands for an integer without comparing with integers. -/
theorem isComparable_outline (g : Grain) (v : Value) : (v.outline g).isComparable = true := by
  cases v with
  | bool b => cases g <;> rfl
  | _ => rfl

/-- Outlines say of themselves whether they can be gone through as the values do. -/
theorem isDeclaredIterable_outline (g : Grain) (v : Value) :
    (v.outline g).isDeclaredIterable = v.isDeclaredIterable := by
  cases v with
  | bool b => cases g <;> rfl
  | iterable object access items => cases access <;> rfl
  | _ => rfl

/-- Shapes hold plain integers already. -/
@[simp] theorem outline_shape_fine (s : Shape) : (shape s).outline .fine = shape s :=
  congrArg (fun dimensions => shape ⟨dimensions, s.layout⟩) (List.map_id s.dimensions)

@[simp] theorem map_outline_dimensions (s : Shape) :
    (dimensions s).map (outline .fine) = dimensions s := by
  simp [dimensions, outline, Grain.whole]

@[simp] theorem map_outline_layout (g : Grain) (s : Shape) :
    (layout s).map (outline g) = layout s := by
  simp [layout, outline, tag]

theorem outline_tuple (g : Grain) (items : List Value) :
    (tuple items).outline g = tuple (items.map (outline g)) := by
  rw [outline, outlineItems_eq]

end Value

namespace Upkeep

variable {values : List Value}

/-- Values that can be printed can be handed on in a tuple. -/
theorem printed_tuple (h : ∀ v ∈ values, printed.Held v) : printed.Held (.tuple values) :=
  (printed.hereditary.tuple values).mpr h

theorem printed_dimensions (s : Shape) : ∀ v ∈ Value.dimensions s, printed.Held v :=
  printed.hereditary.dimensions s

theorem printed_layout (s : Shape) : ∀ v ∈ Value.layout s, printed.Held v :=
  printed.hereditary.layout s

end Upkeep

namespace Shape

open Eval (coupled_ofDraw coupled_report)

variable {values : List Value} {layout v : Value}

/-! ## From dimensions and a layout -/

theorem dimensionFrom_fine (axis : Nat) (v : Value) :
    dimensionFrom axis (v.outline .fine) = dimensionFrom axis v := by
  cases v <;> rfl

/-- Dimensions are taken for their integers, and refused by their place and their kind. -/
theorem dimensionsFrom_fine (axis : Nat) (values : List Value) :
    dimensionsFrom axis (values.map (Value.outline .fine)) = dimensionsFrom axis values := by
  induction values generalizing axis with
  | nil => rfl
  | cons v rest ih => rw [List.map_cons, dimensionsFrom, dimensionsFrom, dimensionFrom_fine, ih]

/-- An entry of a layout is a tag just if its outline is; otherwise its kind shows, which may differ
without any harm to what is related. -/
theorem coupled_tagEntry (position : Nat) (v : Value) :
    Eval.Coupled g Eq (tagEntry position v) (tagEntry position (v.outline g)) := by
  have untagged : Eval.Coupled (α := Tag) g Eq (.reject (.untaggedEntry v.typeName))
      (.reject (.untaggedEntry (v.outline g).typeName)) := .throw rfl
  cases v with
  | text t =>
    cases t with
    | tag tag => exact .pure rfl
    | _ => exact untagged
  | bool b => cases g <;> exact untagged
  | _ => exact untagged

theorem coupled_ofText (t : Text) :
    Eval.Coupled g Eq (Layout.ofText t) (Layout.ofText t) := by
  unfold Layout.ofText
  cases Layout.decode t.content.toList with
  | ok tags => exact .pure rfl
  | error stray => exact (coupled_report _ (.pure trivial)).bind fun _ _ _ => .throw rfl

/-- Layouts are read the same off a value and off its outline. -/
theorem coupled_layoutFrom (rank : Nat) (h : Upkeep.printed.Held layout) :
    Eval.Coupled g Eq (layoutFrom rank layout) (layoutFrom rank (layout.outline g)) := by
  have entries : Eval.Coupled g Eq (Eval.eachItem tagEntry layout)
      (Eval.eachItem tagEntry (layout.outline g)) :=
    (Eval.coupled_eachItem (fun position v _ => coupled_tagEntry position v) h).imp
      fun tags tags' same => by rwa [List.forall₂_eq_eq_eq] at same
  cases layout with
  | absent => exact .pure rfl
  | text t => exact coupled_ofText t
  | bool b => cases g <;> exact entries
  | _ => exact entries

/-- Checking dimensions first and a layout then comes to the same for values and for outlines. -/
theorem coupled_assemble (values : List Value) (h : Upkeep.printed.Held layout) :
    Eval.Coupled .fine Eq (assemble values layout)
      (assemble (values.map (Value.outline .fine)) (layout.outline .fine)) := by
  rw [assemble, assemble, dimensionsFrom_fine]
  cases dimensionsFrom 0 values with
  | error failure => exact .throw rfl
  | ok dimensions =>
    refine (coupled_layoutFrom dimensions.length h).bind ?_
    rintro tags _ rfl
    split
    · exact .pure rfl
    · exact .throw rfl

/-- What is refused can be written on both sides or on neither. -/
theorem writes_refusalText (held : ∀ v ∈ values, Upkeep.printed.Held v)
    (h : Upkeep.printed.Held layout) (cause cause' : Cause) :
    Value.Writes g (refusalText values layout cause)
      (refusalText (values.map (Value.outline g)) (layout.outline g) cause') := by
  rw [refusalText, refusalText, ← Value.outline_tuple]
  exact (Value.writes_write (Upkeep.printed_tuple held)).bind fun _ _ _ =>
    (Value.writes_write h).bind fun _ _ _ => .pure trivial

/-- A construction fails alike for values and for outlines, though its record may show the
difference. -/
theorem coupled_construct (held : ∀ v ∈ values, Upkeep.printed.Held v)
    (h : Upkeep.printed.Held layout) :
    Eval.Coupled .fine Eq (construct values layout)
      (construct (values.map (Value.outline .fine)) (layout.outline .fine)) := by
  refine Coupled.tryCatch (coupled_assemble values h) fun failure failure' same => ?_
  cases failure with
  | rejected cause =>
    cases failure' with
    | rejected cause' =>
      exact (coupled_report _ (writes_refusalText held h cause cause')).bind fun _ _ _ =>
        .throw same
    | _ => cases same
  | _ =>
    cases failure' with
    | rejected cause' => cases same
    | _ => exact .throw same

/-! ## From arguments -/

/-- A layout is left out just if its outline is. -/
theorem outline_layoutForCopy (s : Shape) (layout : Value) :
    layoutForCopy s (layout.outline .fine) = (layoutForCopy s layout).outline .fine := by
  cases layout with
  | absent => simp [layoutForCopy, Value.outline]
  | _ => rfl

theorem printed_layoutForCopy (s : Shape) (h : Upkeep.printed.Held layout) :
    Upkeep.printed.Held (layoutForCopy s layout) := by
  unfold layoutForCopy
  split
  · exact Upkeep.printed_tuple (Upkeep.printed_layout s)
  · exact h

/-- A lone value that is no integer is text, or a shape to be copied, or holds the dimensions. -/
theorem coupled_ofArguments_lone (integer : v.integer? = none) (held : Upkeep.printed.Held v)
    (h : Upkeep.printed.Held layout) : Eval.Coupled .fine Eq (ofArguments [v] layout)
      (ofArguments [v.outline .fine] (layout.outline .fine)) := by
  have refused : Eval.Coupled (α := Shape) .fine Eq (.reject (.notDimensions v.typeName))
      (.reject (.notDimensions (v.outline .fine).typeName)) := .throw rfl
  by_cases text : ∃ t, v = .text t
  · obtain ⟨t, rfl⟩ := text
    exact refused
  by_cases copied : ∃ s, v = .shape s
  · obtain ⟨s, rfl⟩ := copied
    rw [Value.outline_shape_fine]
    change Eval.Coupled .fine Eq (construct _ (layoutForCopy s layout))
      (construct _ (layoutForCopy s (layout.outline .fine)))
    have made := coupled_construct (Upkeep.printed_dimensions s) (printed_layoutForCopy s h)
    rwa [Value.map_outline_dimensions, ← outline_layoutForCopy] at made
  have text' (t : Text) : v.outline .fine ≠ .text t := fun e => text ⟨t, by
    cases v <;> first | exact e | cases e⟩
  have copied' (s : Shape) : v.outline .fine ≠ .shape s := fun e => copied (by
    cases v <;> first | exact ⟨_, rfl⟩ | cases e)
  rw [ofArguments_lone integer (fun t e => text ⟨t, e⟩) (fun s e => copied ⟨s, e⟩),
    ofArguments_lone (by rwa [Value.integer?_fine]) text' copied',
    Value.isDeclaredIterable_outline]
  split
  · refine (Eval.coupled_items held).bind ?_
    rintro items _ ⟨rfl, held⟩
    exact coupled_construct held h
  · exact refused

/-- Whether a lone argument stands for one dimension or holds them all shows in its outline. -/
theorem coupled_ofArguments {arguments : List Value}
    (held : ∀ v ∈ arguments, Upkeep.printed.Held v) (h : Upkeep.printed.Held layout) :
    Eval.Coupled .fine Eq (ofArguments arguments layout)
      (ofArguments (arguments.map (Value.outline .fine)) (layout.outline .fine)) := by
  match arguments with
  | [] => exact coupled_construct held h
  | v :: w :: rest => exact coupled_construct held h
  | [v] =>
    cases integer : v.integer? with
    | some n =>
      have integer' : (v.outline .fine).integer? = some n := by rwa [Value.integer?_fine]
      simp only [ofArguments, integer, integer', List.map_cons, List.map_nil, Option.isSome_some,
        if_true]
      exact coupled_construct held h
    | none => exact coupled_ofArguments_lone integer (List.forall_mem_singleton.mp held) h

/-- What a tensor gives for its shape is gone through on both sides. -/
theorem coupled_ofTensor {tensor : Value} (held : Upkeep.printed.Held tensor)
    (h : Upkeep.printed.Held layout) : Eval.Coupled .fine Eq (ofTensor tensor layout)
      (ofTensor (tensor.outline .fine) (layout.outline .fine)) := by
  cases tensor with
  | tensor object v =>
    refine (Eval.coupled_items ((Upkeep.printed.hereditary.tensor object v).mp held)).bind ?_
    rintro items _ ⟨rfl, held⟩
    exact coupled_construct held h
  | _ => exact .throw rfl

/-! ## From pairs -/

/-- Pairs that have been split are handed on as two tuples. -/
theorem coupled_ofParts {parts : List (Value × Value)}
    (held : ∀ p ∈ parts, Upkeep.printed.Held p.1 ∧ Upkeep.printed.Held p.2) :
    Eval.Coupled .fine Eq (ofParts parts)
      (ofParts (parts.map (Prod.map (Value.outline .fine) (Value.outline .fine)))) := by
  have firsts : Upkeep.printed.Held (.tuple (parts.map Prod.fst)) :=
    Upkeep.printed_tuple (List.forall_mem_map.mpr fun p mem => (held p mem).1)
  have seconds : Upkeep.printed.Held (.tuple (parts.map Prod.snd)) :=
    Upkeep.printed_tuple (List.forall_mem_map.mpr fun p mem => (held p mem).2)
  have made := coupled_ofArguments (List.forall_mem_singleton.mpr firsts) seconds
  simp only [List.map_singleton, Value.outline_tuple, List.map_map] at made
  rw [ofParts, ofParts, List.map_map, List.map_map]
  exact made

theorem coupled_ofPairs {pairs : Value} (h : Upkeep.printed.Held pairs) :
    Eval.Coupled .fine Eq (ofPairs pairs) (ofPairs (pairs.outline .fine)) := by
  refine (Eval.coupled_eachItem_map (fun axis _ => coupled_splitPair axis) h).bind ?_
  rintro parts _ ⟨rfl, held⟩
  exact coupled_ofParts held

/-- A shape that is constructed again is the same on both sides. -/
theorem coupled_checked (s : Shape) : Eval.Coupled .fine Eq s.checked s.checked := by
  have dimensions := Upkeep.printed_tuple (Upkeep.printed_dimensions s)
  have made := coupled_ofArguments (List.forall_mem_singleton.mpr dimensions)
    (Upkeep.printed_tuple (Upkeep.printed_layout s))
  rw [checked]
  simpa [Value.outline_tuple] using made

/-! ## Axes chosen by values -/

variable (s : Shape)

/-- What compares with integers chooses the axis that a plain integer chooses. -/
theorem axis?_fine (comparable : v.isComparable = true) :
    s.axis? (v.outline .fine) = s.axis? v := by
  rw [axis?, axis?, Value.integer?_fine, Value.isComparable_outline, comparable]

/-- The forms that are shown may differ; that they can be shown may not. -/
theorem coupled_reportedForms (h : Upkeep.printed.Held v) :
    Eval.Coupled g (fun _ _ => True) (reportedForms v) (reportedForms (v.outline g)) :=
  (coupled_ofDraw (Value.writes_write h)).bind fun _ _ _ =>
    (coupled_ofDraw (Value.writes_write h)).bind fun _ _ _ => .pure trivial

/-- The axis that is found is the same, and where none is the refusals differ in forms only. -/
theorem coupled_locate (query : AxisQuery) (h : Upkeep.printed.Held v)
    (comparable : v.isComparable = true) :
    Eval.Coupled .fine Eq (s.locate query v) (s.locate query (v.outline .fine)) := by
  rw [locate, locate, s.axis?_fine comparable, Value.isComparable_outline, comparable]
  cases s.axis? v with
  | some i => exact .pure rfl
  | none =>
    refine (coupled_reportedForms h).bind ?_
    rintro ⟨_, _⟩ ⟨_, _⟩ -
    exact .throw rfl

theorem coupled_get (h : Upkeep.printed.Held v) (comparable : v.isComparable = true) :
    Eval.Coupled .fine Eq (s.get v) (s.get (v.outline .fine)) := by
  refine (s.coupled_locate .get h comparable).bind ?_
  rintro i _ rfl
  exact .pure rfl

theorem coupled_mapM_locate (query : AxisQuery) {axes : List Value}
    (h : ∀ v ∈ axes, Upkeep.printed.Held v) (comparable : ∀ v ∈ axes, v.isComparable = true) :
    Eval.Coupled .fine Eq (axes.mapM (s.locate query))
      ((axes.map (Value.outline .fine)).mapM (s.locate query)) := by
  induction axes with
  | nil => exact .pure rfl
  | cons v rest ih =>
    obtain ⟨held, others⟩ := List.forall_mem_cons.mp h
    obtain ⟨compares, compare⟩ := List.forall_mem_cons.mp comparable
    rw [List.map_cons, List.mapM_cons, List.mapM_cons]
    refine (s.coupled_locate query held compares).bind ?_
    rintro i _ rfl
    refine (ih others compare).bind ?_
    rintro others _ rfl
    exact .pure rfl

theorem coupled_sizeOver {axes : List Value} (h : ∀ v ∈ axes, Upkeep.printed.Held v)
    (comparable : ∀ v ∈ axes, v.isComparable = true) :
    Eval.Coupled .fine Eq (s.sizeOver axes) (s.sizeOver (axes.map (Value.outline .fine))) := by
  cases axes with
  | nil => exact .pure rfl
  | cons v rest =>
    refine (s.coupled_mapM_locate .size h comparable).bind ?_
    rintro chosen _ rfl
    exact .pure rfl

/-- Bounds are converted before they are compared, so nothing is asked of what stands for one. -/
theorem coupled_boundOf (bound : Bound) (h : Upkeep.printed.Held v) :
    Eval.Coupled .fine Eq (s.boundOf bound v) (s.boundOf bound (v.outline .fine)) := by
  rw [boundOf, boundOf, Value.integer?_fine]
  cases v.integer? with
  | some n => exact .pure rfl
  | none =>
    refine (coupled_reportedForms h).bind ?_
    rintro ⟨_, _⟩ ⟨_, _⟩ -
    exact .throw rfl

theorem coupled_between (first past : Int) :
    Eval.Coupled .fine Eq (s.between first past) (s.between first past) := by
  unfold between
  split
  · exact coupled_checked _
  · exact .throw rfl

theorem outline_pastOr (past : Value) :
    s.pastOr (past.outline .fine) = (s.pastOr past).outline .fine := by
  cases past <;> rfl

theorem printed_pastOr (h : Upkeep.printed.Held v) : Upkeep.printed.Held (s.pastOr v) := by
  unfold pastOr
  split
  · exact Upkeep.printed.hereditary.int _
  · exact h

/-- The second bound is asked for after the first has been accepted, on both sides. -/
theorem coupled_slice {first past : Value} (h : Upkeep.printed.Held first)
    (h' : Upkeep.printed.Held past) : Eval.Coupled .fine Eq (s.slice first past)
      (s.slice (first.outline .fine) (past.outline .fine)) := by
  refine (s.coupled_boundOf .first h).bind ?_
  rintro b _ rfl
  rw [outline_pastOr]
  refine (s.coupled_boundOf .past (s.printed_pastOr h')).bind ?_
  rintro e _ rfl
  exact s.coupled_between b e

end Shape

/-! ## Operations -/

/-- Whether an operation is handed integers as dimensions, axes or bounds. -/
def Operation.takesIntegers : Operation → Bool
  | construct _ _ => true
  | fromPairs _ => true
  | ofTensor _ _ => true
  | get _ _ => true
  | size _ _ => true
  | slice _ _ _ => true
  | _ => false

/-- The outline of what is handed to an operation that takes integers. -/
def Operation.outline (g : Grain) : Operation → Operation
  | construct arguments layout => construct (arguments.map (Value.outline g)) (layout.outline g)
  | fromPairs v => fromPairs (v.outline g)
  | ofTensor tensor layout => ofTensor (tensor.outline g) (layout.outline g)
  | get s axis => get s (axis.outline g)
  | size s axes => size s (axes.map (Value.outline g))
  | slice s first past => slice s (first.outline g) (past.outline g)
  | operation => operation

/-- What an operation is handed for an axis compares with integers. -/
def Operation.AxesCompare : Operation → Prop
  | get _ axis => axis.isComparable = true
  | size _ axes => ∀ v ∈ axes, v.isComparable = true
  | _ => True

/-- An operation does with plain integers what it does with what stands for them. -/
theorem Operation.coupled_run {operation : Operation} (takes : operation.takesIntegers = true)
    (held : operation.Holds Upkeep.printed.Held) (compare : operation.AxesCompare) :
    Eval.Coupled .fine Eq operation.run (operation.outline .fine).run := by
  have carried {α : Type} {work work' : Eval α} (wrap : α → Result)
      (h : Eval.Coupled .fine Eq work work') : Eval.Coupled .fine Eq
        (do return wrap (← work)) (do return wrap (← work')) := by
    refine h.bind ?_
    rintro a _ rfl
    exact .pure rfl
  cases operation with
  | construct arguments layout =>
    exact carried (.value <| .shape ·) (Shape.coupled_ofArguments held.1 held.2)
  | fromPairs v => exact carried (.value <| .shape ·) (Shape.coupled_ofPairs held)
  | ofTensor tensor layout =>
    exact carried (.value <| .shape ·) (Shape.coupled_ofTensor held.1 held.2)
  | get s axis => exact carried (.value <| .int ·) (s.coupled_get held.2 compare)
  | size s axes => exact carried (.value <| .int ·) (s.coupled_sizeOver held.2 compare)
  | slice s first past => exact carried (.value <| .shape ·) (s.coupled_slice held.2.1 held.2.2)
  | _ => cases takes

end TensorShape

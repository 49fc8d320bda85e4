import Mathlib.Data.Finset.Card
import TensorShape.Proofs.Acceptance
import TensorShape.Proofs.TwoRuns

/-! # Equality of shapes is a congruence

Two shapes are equal if they have the same dimensions, and then nothing but a question
about the layout tells them apart.  Every other question comes to the same
(`Inquiry.run_eq`), with the same failure where there is one: none of the wordings that
a shape is refused with shows a tag.

The tags do take part in what is derived from a shape, so derivations from equal shapes
need not be the same, only equal again.  This is shown for each step, and for a chain of
steps by induction on the chain (`Chain.alike_run`).  A callback sees the tags, so it has
to be asked of it that the dimensions that it answers do not depend on them.

A set keeps one of several equal shapes.  Whether it looks for an equal shape everywhere
or only among those with the same hash, it keeps as many shapes as there are lists of
dimensions. -/
namespace TensorShape

open List (Forall₂)

namespace Shape

/-- Two valid shapes are equal: they have the same dimensions, whatever their tags. -/
structure Agreeing (s t : Shape) : Prop where
  left : s.Valid
  right : t.Valid
  agrees : s.agrees t

theorem agrees_iff {s t : Shape} : s.agrees t ↔ s.dimensions = t.dimensions := beq_iff_eq

theorem Agreeing.dimensions {s t : Shape} (h : Agreeing s t) : s.dimensions = t.dimensions :=
  agrees_iff.mp h.agrees

theorem Agreeing.ranks {s t : Shape} (h : Agreeing s t) : s.rank = t.rank :=
  congrArg List.length h.dimensions

end Shape

/-! ## Questions -/

/-- The ways of asking about a shape that ask nothing about its layout. -/
inductive Inquiry : (Shape → Operation) → Prop
  | get (axis) : Inquiry (.get · axis)
  | size (axes) : Inquiry (.size · axes)
  | query {q} : q ≠ .isLayoutKnown → q ≠ .layoutSpelling → Inquiry (.query · q)
  | length : Inquiry fun s => .length (.shape s)
  | items : Inquiry fun s => .items (.shape s)
  | cursor : Inquiry fun s => .cursor (.shape s)
  | truth : Inquiry fun s => .truth (.shape s)
  | displayed : Inquiry fun s => .displayed (.shape s)
  | compare (v) : Inquiry fun s => .compare (.shape s) v
  | compareTo (v) : Inquiry fun s => .compare v (.shape s)

section Access

variable (dimensions : List Int) (layout layout' : Layout)

theorem locate_congr (query : AxisQuery) (v : Value) :
    Shape.locate ⟨dimensions, layout⟩ query v = Shape.locate ⟨dimensions, layout'⟩ query v := by
  unfold Shape.locate
  have chosen : Shape.axis? ⟨dimensions, layout⟩ v = Shape.axis? ⟨dimensions, layout'⟩ v := rfl
  rw [chosen]
  match Shape.axis? ⟨dimensions, layout'⟩ v with
  | some i => rfl
  | none => rfl

theorem get_congr (axis : Value) :
    Shape.get ⟨dimensions, layout⟩ axis = Shape.get ⟨dimensions, layout'⟩ axis :=
  congrArg (· >>= fun i => pure (Shape.dimensionAt ⟨dimensions, layout'⟩ i))
    (locate_congr dimensions layout layout' .get axis)

theorem sizeOver_congr (axes : List Value) :
    Shape.sizeOver ⟨dimensions, layout⟩ axes = Shape.sizeOver ⟨dimensions, layout'⟩ axes := by
  cases axes with
  | nil => rfl
  | cons axis rest =>
    have same := funext (locate_congr dimensions layout layout' .size)
    exact congrArg (fun locate => (axis :: rest).mapM locate >>= fun chosen =>
      pure (Shape.gridSize (chosen.map (Shape.dimensionAt ⟨dimensions, layout'⟩)))) same

end Access

/-- Questions that ask nothing about the layout come to the same for equal shapes. -/
theorem Inquiry.run_eq {ask : Shape → Operation} (h : Inquiry ask) {s t : Shape}
    (agrees : s.agrees t) : (ask s).run = (ask t).run := by
  obtain ⟨ds, ts⟩ := s
  obtain ⟨ds', ts'⟩ := t
  obtain rfl : ds = ds' := Shape.agrees_iff.mp agrees
  cases h with
  | get axis => simp only [Operation.run, get_congr ds ts ts']
  | size axes => simp only [Operation.run, sizeOver_congr ds ts ts']
  | @query q known spelled =>
    cases q with
    | isLayoutKnown => exact absurd rfl known
    | layoutSpelling => exact absurd rfl spelled
    | matrix query => cases query <;> rfl
    | _ => rfl
  | compare v => cases v <;> rfl
  | compareTo v =>
    cases v with
    | view label => cases label <;> rfl
    | liveView label => cases label <;> rfl
    | _ => rfl
  | _ => rfl

/-! ## Derivations -/

namespace Shape

open Eval (Alike)

variable {s t u v : Shape}

theorem Agreeing.segment (h : Agreeing s t) (first past : Nat) :
    Agreeing (s.segment first past) (t.segment first past) where
  left := h.left.segment first past
  right := h.right.segment first past
  agrees := agrees_iff.mpr (by rw [dimensions_segment, dimensions_segment, h.dimensions])

theorem Agreeing.append (h : Agreeing s t) (h' : Agreeing u v) : Agreeing (s ++ u) (t ++ v) where
  left := h.left.append h'.left
  right := h.right.append h'.right
  agrees := agrees_iff.mpr (by rw [dimensions_append, dimensions_append, h.dimensions,
    h'.dimensions])

theorem Agreeing.alike_slice (h : Agreeing s t) (first past : Value) :
    Alike Agreeing (s.slice first past) (t.slice first past) :=
  Shape.alike_slice h.left h.right h.ranks h.segment first past

theorem Agreeing.alike_concatenate (h : Agreeing s t) (h' : Agreeing u v) :
    Alike Agreeing (s.concatenate (.shape u)) (t.concatenate (.shape v)) :=
  alike_checked (h.left.append h'.left) (h.right.append h'.right) (h.append h')

/-! ### Callbacks -/

/-- A callback that answers axes with valid pairs, of dimensions that do not depend on the tag. -/
def Transform.TagBlind (transform : Transform) : Prop :=
  ∀ call dimension, -1 ≤ dimension → ∃ d, ∀ tag, ∃ v x tag',
    transform call ⟨dimension, tag⟩ = .ok v ∧ v.pair? = pure (some (x, .tag tag')) ∧ Fits x d

/-- Two pairs describe axes of one dimension. -/
inductive SameExtent : Value × Value → Value × Value → Prop
  | intro {x y d tag tag'} : Fits x d → Fits y d → SameExtent (x, .tag tag) (y, .tag tag')

/-- Pairs that describe axes are accepted. -/
theorem ofParts_of_allFit {parts : List (Value × Value)} {dimensions : List Int} {tags : Layout}
    (fit : AllFit (parts.map Prod.fst) dimensions) (tagged : parts.map Prod.snd = tags.map .tag)
    (lengths : tags.length = dimensions.length) : ofParts parts = pure ⟨dimensions, tags⟩ := by
  rw [ofParts, ofArguments_tuple, tagged]
  exact construct_eq_pure fit (layoutFrom_tags _ tags) lengths

/-- Pairs that describe axes of the same dimensions make shapes that agree. -/
theorem alike_ofParts {parts parts' : List (Value × Value)}
    (same : Forall₂ SameExtent parts parts') : Alike Agreeing (ofParts parts) (ofParts parts') := by
  have made : ∃ (ds : List Int) (ts ts' : Layout), AllFit (parts.map Prod.fst) ds ∧
      AllFit (parts'.map Prod.fst) ds ∧ parts.map Prod.snd = ts.map .tag ∧
      parts'.map Prod.snd = ts'.map .tag ∧ ts.length = ds.length ∧ ts'.length = ds.length := by
    induction same with
    | nil => exact ⟨[], [], [], ⟨rfl, nofun⟩, ⟨rfl, nofun⟩, rfl, rfl, rfl, rfl⟩
    | cons first _ ih =>
      obtain ⟨ds, ts, ts', fit, fit', tagged, tagged', lengths, lengths'⟩ := ih
      obtain ⟨fits, fits'⟩ := first
      exact ⟨_ :: ds, _ :: ts, _ :: ts', fit.cons fits, fit'.cons fits',
        congrArg (_ :: ·) tagged, congrArg (_ :: ·) tagged', congrArg Nat.succ lengths,
        congrArg Nat.succ lengths'⟩
  obtain ⟨ds, ts, ts', fit, fit', tagged, tagged', lengths, lengths'⟩ := made
  rw [ofParts_of_allFit fit tagged lengths, ofParts_of_allFit fit' tagged' lengths']
  exact .pure ⟨⟨lengths.symm, fit.bounded⟩, ⟨lengths'.symm, fit'.bounded⟩, agrees_iff.mpr rfl⟩

/-- The axes of shapes that agree have the same dimensions. -/
theorem Agreeing.axes (h : Agreeing s t) : Forall₂ (fun axis axis' =>
    axis.dimension = axis'.dimension ∧ -1 ≤ axis.dimension) s.axes t.axes := by
  have same : Forall₂ (fun d d' => d = d' ∧ -1 ≤ d) (s.axes.map Axis.dimension)
      (t.axes.map Axis.dimension) := by
    rw [h.left.map_dimension_axes, h.right.map_dimension_axes, ← h.dimensions]
    exact List.forall₂_same.mpr fun d held => ⟨rfl, h.left.bounded d held⟩
  exact List.forall₂_map_right_iff.mp (List.forall₂_map_left_iff.mp same)

theorem Agreeing.alike_mapAxes {transform : Transform} (h : Agreeing s t)
    (blind : transform.TagBlind) : Alike Agreeing (s.mapAxes transform) (t.mapAxes transform) := by
  rw [mapAxes_def, mapAxes_def]
  refine (alike_eachAxis h.left h.right h.axes ?_).bind fun _ _ same => alike_ofParts same
  rintro call ⟨dimension, tag⟩ ⟨_, tag'⟩ ⟨rfl, bounded⟩
  obtain ⟨d, answers⟩ := blind call dimension bounded
  obtain ⟨v, x, u, answered, split, fits⟩ := answers tag
  obtain ⟨v', x', u', answered', split', fits'⟩ := answers tag'
  rw [remake, remake, answered, answered']
  refine ((Alike.noteCall _ _).bind fun _ _ _ => .pure ⟨rfl, rfl⟩).bind
    (R := fun w w' => w = v ∧ w' = v') fun w w' held => ?_
  rw [held.1, held.2, splitPair_of_parts call split, splitPair_of_parts call split']
  exact .pure (.intro fits fits')

end Shape

/-! ## Chains of derivations -/

/-- A chain of derivations that starts from shapes given by number. -/
inductive Chain where
  | given (n : Nat)
  | slice (c : Chain) (first past : Value)
  | concatenate (c d : Chain)
  | map (c : Chain) (transform : Shape.Transform)

namespace Chain

open Shape (Agreeing)
open Eval (Alike)

/-- Carries out a chain of derivations. -/
def run (shapes : Nat → Shape) : Chain → Eval Shape
  | given n => return shapes n
  | slice c first past => do (← c.run shapes).slice first past
  | concatenate c d => do
    let s ← c.run shapes
    let t ← d.run shapes
    s.concatenate (.shape t)
  | map c transform => do (← c.run shapes).mapAxes transform

/-- No callback of the chain lets tags decide about dimensions. -/
def TagBlind : Chain → Prop
  | given _ => True
  | slice c _ _ => c.TagBlind
  | concatenate c d => c.TagBlind ∧ d.TagBlind
  | map c transform => c.TagBlind ∧ transform.TagBlind

/-- Each step carries equality from the shapes that it starts from to the one that it makes. -/
theorem alike_run {c : Chain} (blind : c.TagBlind) {shapes shapes' : Nat → Shape}
    (agreeing : ∀ n, Agreeing (shapes n) (shapes' n)) :
    Alike Agreeing (c.run shapes) (c.run shapes') := by
  induction c with
  | given n => exact .pure (agreeing n)
  | slice c first past ih => exact (ih blind).bind fun s t h => h.alike_slice first past
  | concatenate c d ihc ihd =>
    refine (ihc blind.1).bind fun s t left => ?_
    exact (ihd blind.2).bind fun u v right => left.alike_concatenate right
  | map c transform ih => exact (ih blind.1).bind fun s t h => h.alike_mapAxes blind.2

end Chain

/-! ## Sets -/

/-- The lists of dimensions of some shapes, each once. -/
def Shape.extents (shapes : List Shape) : Finset (List Int) := (shapes.map dimensions).toFinset

theorem Shape.extents_cons (s : Shape) (rest : List Shape) :
    extents (s :: rest) = insert s.dimensions (extents rest) := List.toFinset_cons

/-- Counting a value among others looks for an equal one, so shapes count by their dimensions. -/
theorem Value.distinctCount_shapes (shapes : List Shape) :
    Value.distinctCount (shapes.map .shape) = (Shape.extents shapes).card := by
  induction shapes with
  | nil => rfl
  | cons s rest ih =>
    have found : (rest.map Value.shape).any (Value.same (.shape s)) ↔
        s.dimensions ∈ Shape.extents rest := by
      rw [List.any_map, List.any_eq_true, Shape.extents, List.mem_toFinset, List.mem_map]
      exact exists_congr fun t => and_congr_right fun _ => Shape.agrees_iff.trans eq_comm
    rw [List.map_cons, Value.distinctCount, ih, Shape.extents_cons]
    split
    · rename_i held
      rw [Finset.card_insert_of_mem (found.mp held), Nat.add_zero]
    · rename_i missing
      rw [Finset.card_insert_of_notMem (mt found.mpr missing)]

namespace Shape

section Hash

/- How a tuple of integers is hashed. -/
variable (ofTuple : List Int → Int)

/-- The hash of a shape is that of the tuple of its dimensions. -/
def hash (s : Shape) : Int := ofTuple s.dimensions

/-- Puts a shape into a set unless the set holds an equal one.  An equal one is looked for only
among the shapes with the same hash. -/
def addTo (held : List Shape) (s : Shape) : List Shape :=
  if held.any fun t => t.hash ofTuple == s.hash ofTuple && t.agrees s then held else s :: held

variable {held : List Shape}

theorem found_iff {s : Shape} : held.any (fun t => t.hash ofTuple == s.hash ofTuple && t.agrees s) ↔
    s.dimensions ∈ held.map dimensions := by
  rw [List.any_eq_true, List.mem_map]
  refine exists_congr fun t => and_congr_right fun _ => ?_
  rw [Bool.and_eq_true, agrees_iff, beq_iff_eq]
  exact ⟨And.right, fun same => ⟨congrArg ofTuple same, same⟩⟩

/-- A set holds each list of dimensions once if it did before a shape is put into it. -/
theorem addTo_spec (distinct : (held.map dimensions).Nodup) (s : Shape) :
    ((addTo ofTuple held s).map dimensions).Nodup ∧
      extents (addTo ofTuple held s) = insert s.dimensions (extents held) := by
  unfold addTo
  split
  · rename_i found
    have member := List.mem_toFinset.mpr ((found_iff ofTuple).mp found)
    exact ⟨distinct, (Finset.insert_eq_of_mem member).symm⟩
  · rename_i missing
    exact ⟨List.nodup_cons.mpr ⟨mt (found_iff ofTuple).mpr missing, distinct⟩, extents_cons s held⟩

/-- So it does after any number of shapes have been put into it. -/
theorem foldl_addTo_spec (distinct : (held.map dimensions).Nodup) (shapes : List Shape) :
    ((shapes.foldl (addTo ofTuple) held).map dimensions).Nodup ∧
      extents (shapes.foldl (addTo ofTuple) held) = extents held ∪ extents shapes := by
  induction shapes generalizing held with
  | nil => exact ⟨distinct, (Finset.union_empty _).symm⟩
  | cons s rest ih =>
    obtain ⟨distinct, added⟩ := addTo_spec ofTuple distinct s
    obtain ⟨distinct, all⟩ := ih distinct
    refine ⟨distinct, ?_⟩
    rw [List.foldl_cons, all, added, extents_cons, Finset.insert_union, Finset.union_insert]

theorem length_foldl_addTo (shapes : List Shape) :
    (shapes.foldl (addTo ofTuple) []).length = (extents shapes).card := by
  have empty : (([] : List Shape).map dimensions).Nodup := List.nodup_nil
  obtain ⟨distinct, all⟩ := foldl_addTo_spec ofTuple empty shapes
  calc (shapes.foldl (addTo ofTuple) []).length
      = (extents (shapes.foldl (addTo ofTuple) [])).card := by
        rw [extents, List.toFinset_card_of_nodup distinct, List.length_map]
    _ = (extents [] ∪ extents shapes).card := by rw [all]
    _ = (extents shapes).card := by
        rw [extents, List.map_nil, List.toFinset_nil, Finset.empty_union]

end Hash

/-! ## Together -/

open Eval (Alike)

/-- What makes it safe to take one of two equal shapes for the other. -/
structure Congruence : Prop where
  /-- Questions that ask nothing about the layout come to the same. -/
  inquiry : ∀ {ask : Shape → Operation}, Inquiry ask → ∀ {s t : Shape}, s.agrees t →
    (ask s).run = (ask t).run
  slice : ∀ {s t : Shape}, Agreeing s t → ∀ first past,
    Alike Agreeing (s.slice first past) (t.slice first past)
  concatenate : ∀ {s t u v : Shape}, Agreeing s t → Agreeing u v →
    Alike Agreeing (s.concatenate (.shape u)) (t.concatenate (.shape v))
  map : ∀ {s t : Shape}, Agreeing s t → ∀ {transform : Transform}, transform.TagBlind →
    Alike Agreeing (s.mapAxes transform) (t.mapAxes transform)
  chain : ∀ {c : Chain}, c.TagBlind → ∀ {shapes shapes' : Nat → Shape},
    (∀ n, Agreeing (shapes n) (shapes' n)) → Alike Agreeing (c.run shapes) (c.run shapes')
  /-- There are as many different shapes as lists of dimensions, -/
  counted : ∀ shapes : List Shape,
    Value.distinctCount (shapes.map .shape) = (extents shapes).card
  /-- in whatever order they are counted, -/
  reordered : ∀ {shapes shapes' : List Shape}, shapes.Perm shapes' →
    Value.distinctCount (shapes.map .shape) = Value.distinctCount (shapes'.map .shape)
  /-- and however they are hashed. -/
  hashed : ∀ (ofTuple : List Int → Int) (shapes : List Shape),
    (shapes.foldl (addTo ofTuple) []).length = (extents shapes).card

/-- **Equality of shapes is a congruence**, for all that does not ask about the layout. -/
theorem congruence : Congruence where
  inquiry := Inquiry.run_eq
  slice := Agreeing.alike_slice
  concatenate := Agreeing.alike_concatenate
  map h _ blind := h.alike_mapAxes blind
  chain := Chain.alike_run
  counted := Value.distinctCount_shapes
  reordered {shapes shapes'} h := by
    have same : extents shapes = extents shapes' :=
      List.toFinset_eq_of_perm _ _ (h.map Shape.dimensions)
    rw [Value.distinctCount_shapes, Value.distinctCount_shapes, same]
  hashed := length_foldl_addTo

/-- Other tags make no difference to a chain that makes each axis longer by one, not even if it then
asks for axes that are not there. -/
theorem congruence_retagged :
    let s : Shape := ⟨[2, -1], [.batch, .channel]⟩
    let t : Shape := ⟨[2, -1], [.unknown, .width]⟩
    let longer : Transform := fun _ axis => .ok (.tuple [.int (axis.dimension + 1), .tag axis.tag])
    let c : Chain := .slice (.map (.concatenate (.given 0) (.given 1)) longer) (.int 1) (.int 5)
    c.TagBlind ∧ Agreeing s t ∧ Alike Agreeing (c.run fun _ => s) (c.run fun _ => t) ∧
      Value.distinctCount [.shape s, .shape t, .shape ⟨[], []⟩] = 2 := by
  intro s t longer c
  have agreeing : Agreeing s t := ⟨by decide, by decide, by decide⟩
  have blind : c.TagBlind := by
    refine ⟨⟨trivial, trivial⟩, fun call dimension bounded => ⟨dimension + 1, fun tag => ?_⟩⟩
    exact ⟨_, _, tag, rfl, rfl, rfl, by omega⟩
  refine ⟨blind, agreeing, congruence.chain blind fun _ => agreeing, ?_⟩
  exact congruence.counted [s, t, ⟨[], []⟩]

end Shape
end TensorShape

import TensorShape.Proofs.Upkeep

/-! # Every shape is valid

A shape comes out of `construct` only with dimensions that have been checked one by
one and with as many tags as dimensions, so whatever is constructed is valid
(`maintains_construct`), and so is what every derivation gives, since all of them end
in a construction.  Nothing is asked of the shapes that go in: a shape that is handed
to an operation is checked like any other value. -/
namespace TensorShape

variable {u : Upkeep} {β : Type}

/-! ## Construction -/

namespace Shape

open Upkeep

/-- A dimension is accepted only if it stands for an extent. -/
theorem unknownMark_le_of_dimensionFrom {axis : Nat} {v : Value} {d : Int}
    (h : dimensionFrom axis v = .ok d) : Extent.unknownMark ≤ d := by
  unfold dimensionFrom at h
  repeat' split at h
  all_goals cases h
  omega

/-- All dimensions that are accepted stand for extents. -/
theorem bounded_of_dimensionsFrom {axis : Nat} {vs : List Value} {ds : List Int}
    (h : dimensionsFrom axis vs = .ok ds) : ∀ d ∈ ds, Extent.unknownMark ≤ d := by
  induction vs generalizing axis ds with
  | nil => cases h; nofun
  | cons v rest ih =>
    cases first : dimensionFrom axis v <;> rw [dimensionsFrom, first] at h
    · cases h
    cases others : dimensionsFrom (axis + 1) rest <;> rw [others] at h <;> cases h
    exact List.forall_mem_cons.mpr ⟨unknownMark_le_of_dimensionFrom first, ih others⟩

/-- Dimensions are rejected, or cannot be shown; no part of a diagnostic is at fault. -/
theorem dimensionsFrom_ne_unfit {axis : Nat} {vs : List Value} {failure : Failure}
    (h : dimensionsFrom axis vs = .error failure) (part : Unfit) : failure ≠ .unfit part := by
  induction vs generalizing axis with
  | nil => cases h
  | cons v rest ih =>
    cases first : dimensionFrom axis v with
    | error failure' =>
      rw [dimensionsFrom, first] at h
      cases h
      unfold dimensionFrom at first
      repeat' split at first
      all_goals cases first
      · nofun
      · nofun
      · exact Failure.showing_ne_unfit part
    | ok d =>
      cases others : dimensionsFrom (axis + 1) rest <;> rw [dimensionsFrom, first, others] at h <;>
        cases h
      exact ih others

theorem maintains_tagEntry (position : Nat) (v : Value) :
    u.Maintains (tagEntry position v) fun _ => True := by
  unfold tagEntry
  split
  · exact .pure trivial
  · exact .throw nofun

/-- A report of a letter writes what was offered as one. -/
theorem maintains_reportLetter {form : Draw String} (h : Ensures u.Kept form fun _ => True) :
    u.Maintains (Layout.reportLetter form) fun _ => True :=
  maintains_report _ (h.bind fun _ _ => .pure trivial)

/-- Reading a text off as a layout reports at most one letter of it. -/
theorem maintains_ofText (spelling : Text) :
    u.Maintains (Layout.ofText spelling) fun _ => True := by
  unfold Layout.ofText
  split
  · exact .pure trivial
  · exact (maintains_reportLetter (.pure trivial)).bind fun _ _ => .throw nofun

/-- Whatever a layout is read off, reading it moves no cursors but those that this leads to. -/
theorem maintains_layoutFrom (rank : Nat) {layout : Value} (h : u.Held layout) :
    u.Maintains (layoutFrom rank layout) fun _ => True := by
  unfold layoutFrom
  split
  · exact .pure trivial
  · exact maintains_ofText _
  · exact (maintains_eachItem (fun position v _ => maintains_tagEntry position v) h).mono
      fun _ _ => trivial

/-- What comes out of the checks of dimensions, layout and lengths is valid. -/
theorem maintains_assemble (dimensions : List Value) {layout : Value} (h : u.Held layout) :
    u.Maintains (assemble dimensions layout) Valid := by
  refine (maintains_ofExcept (fun ds read => bounded_of_dimensionsFrom read)
    fun _ refused => dimensionsFrom_ne_unfit refused).bind fun ds bounded => ?_
  -- of the layout nothing is known here but its length, which is compared last
  refine (maintains_layoutFrom _ h).bind fun ts _ => ?_
  split
  · exact .pure ⟨by simp_all, bounded⟩
  · exact .throw nofun

variable {dimensions : List Value} {layout v : Value}

/-- The log is told of a refusal by writing what was refused. -/
theorem ensures_refusalText (hd : ∀ v ∈ dimensions, u.Held v) (hl : u.Held layout)
    (cause : Cause) : Ensures u.Kept (refusalText dimensions layout cause) fun _ => True :=
  (ensures_write ((u.hereditary.tuple _).mpr hd)).bind fun _ _ =>
    (ensures_write hl).bind fun _ _ => .pure trivial

/-- Whatever is constructed is valid. -/
theorem maintains_construct (hd : ∀ v ∈ dimensions, u.Held v) (hl : u.Held layout) :
    u.Maintains (construct dimensions layout) Valid := by
  refine (maintains_assemble dimensions hl).tryCatch fun failure foreseen => ?_
  split
  · exact (maintains_report _ (ensures_refusalText hd hl _)).bind fun _ _ => .throw nofun
  · exact .fail foreseen

/-- Arguments give valid shapes, whichever of them hold the dimensions. -/
theorem maintains_ofArguments {arguments : List Value} (ha : ∀ v ∈ arguments, u.Held v)
    (hl : u.Held layout) : u.Maintains (ofArguments arguments layout) Valid := by
  unfold ofArguments
  split
  -- the cases are those of a lone argument: an integer, text, a shape, anything else
  · have hv := ha _ (List.mem_singleton_self _)
    split
    · exact maintains_construct ha hl
    · split
      · exact .throw nofun
      · refine maintains_construct (u.hereditary.dimensions _) ?_
        unfold layoutForCopy
        split
        · exact (u.hereditary.tuple _).mpr (u.hereditary.layout _)
        · exact hl
      · split
        · exact (maintains_items hv).bind fun items held => maintains_construct held hl
        · exact .throw nofun
  · exact maintains_construct ha hl

/-- The places of a pair were held by the pair, or by a cursor that it leads to. -/
theorem maintains_splitPair (axis : Nat) (h : u.Held v) :
    u.Maintains (splitPair axis v) fun parts => u.Held parts.1 ∧ u.Held parts.2 := by
  refine (maintains_ofDraw (ensures_pair? h)).bind fun parts given => ?_
  have written := ensures_write h
  match parts with
  | some parts => exact .pure (given parts rfl)
  | none =>
    exact (maintains_report _ (written.bind fun _ _ => .pure trivial)).bind fun _ _ =>
      (maintains_ofDraw written).bind fun _ _ => .throw nofun

/-- Pairs that have been split make a valid shape or none. -/
theorem maintains_ofParts {parts : List (Value × Value)}
    (h : ∀ p ∈ parts, u.Held p.1 ∧ u.Held p.2) : u.Maintains (ofParts parts) Valid := by
  refine maintains_ofArguments (fun v held => ?_) ((u.hereditary.tuple _).mpr fun v held => ?_)
  · rw [List.mem_singleton.mp held, u.hereditary.tuple]
    intro x found
    obtain ⟨p, among, rfl⟩ := List.mem_map.mp found
    exact (h p among).1
  · obtain ⟨p, among, rfl⟩ := List.mem_map.mp held
    exact (h p among).2

theorem maintains_ofPairs (h : u.Held v) : u.Maintains (ofPairs v) Valid :=
  (maintains_eachItem (fun axis _ h => maintains_splitPair axis h) h).bind fun _ held =>
    maintains_ofParts held

theorem maintains_ofTensor (hv : u.Held v) (hl : u.Held layout) :
    u.Maintains (ofTensor v layout) Valid := by
  unfold ofTensor
  split
  · rename_i object shape
    have hs : u.Held shape := (u.hereditary.tensor object _).mp hv
    exact (maintains_items hs).bind fun items held => maintains_construct held hl
  · exact .throw nofun

/-- A shape that is constructed again is checked again. -/
theorem maintains_checked (s : Shape) : u.Maintains s.checked Valid :=
  maintains_ofArguments
    (List.forall_mem_singleton.mpr ((u.hereditary.tuple _).mpr (u.hereditary.dimensions s)))
    ((u.hereditary.tuple _).mpr (u.hereditary.layout s))

theorem maintains_concatenate (s : Shape) (v : Value) : u.Maintains (s.concatenate v) Valid := by
  unfold concatenate
  split
  · exact maintains_checked _
  · exact .throw nofun

/-- What a callback answers is known if all its answers are. -/
theorem maintains_handOver (axis : Axis) {answer : Except String Value}
    (h : ∀ v, answer = .ok v → u.Held v) :
    u.Maintains (handOver axis answer) fun v => u.Held v :=
  (maintains_noteCall axis).bind fun _ _ => maintains_ofCallback h

/-- What each axis is turned into has a property if it has it at each position. -/
theorem maintains_eachAxis {f : Nat → Axis → Eval β} {Q : β → Prop}
    (h : ∀ position axis, u.Maintains (f position axis) Q) (s : Shape) :
    u.Maintains (s.eachAxis f) fun bs => ∀ b ∈ bs, Q b :=
  (maintains_traverse (fun position axis _ => h position axis) 0).bind fun _ held =>
    (maintains_finish _).bind fun _ _ => .pure held

/-- Choosing among the axes gives a valid shape, whatever the predicate answers. -/
theorem maintains_filterAxes {wanted : Predicate}
    (h : ∀ call tag v, wanted call tag = .ok v → u.Held v) (s : Shape) :
    u.Maintains (s.filterAxes wanted) Valid := by
  refine (maintains_eachAxis (Q := fun kept => ∀ v ∈ kept, u.Held v) ?_ s).bind ?_
  · intro call axis
    refine (maintains_handOver axis (h call axis.tag)).bind fun answer _ => ?_
    refine (maintains_ofFault fun _ _ => trivial).bind fun judged _ => .pure ?_
    -- what is kept is an integer and a tag, not what the predicate answered
    cases judged with
    | true =>
      rintro v ⟨⟩
      exact (u.hereditary.axisPair _ _).mpr ⟨u.hereditary.int _, u.hereditary.text _⟩
    | false => exact nofun
  · intro kept held
    refine maintains_ofPairs ((u.hereditary.iterable _ _ _).mpr fun v found => ?_)
    obtain ⟨entry, among, e⟩ := List.mem_filterMap.mp found
    exact held entry among v e

/-- Remaking the axes gives a valid shape, whatever the callback answers. -/
theorem maintains_mapAxes {transform : Transform}
    (h : ∀ call axis v, transform call axis = .ok v → u.Held v) (s : Shape) :
    u.Maintains (s.mapAxes transform) Valid := by
  refine (maintains_eachAxis (fun call axis => ?_) s).bind fun parts held => maintains_ofParts held
  exact (maintains_handOver axis (h call axis)).bind fun _ from' => maintains_splitPair call from'

/-! ## Choosing axes -/

theorem maintains_reportedForms (h : u.Held v) : u.Maintains (reportedForms v) fun _ => True :=
  have written := maintains_ofDraw (ensures_write h)
  written.bind fun _ _ => written.bind fun _ _ => .pure trivial

/-- Looking for an axis moves no cursors but those of a value that is refused. -/
theorem maintains_locate (s : Shape) (query : AxisQuery) (h : u.Held v) :
    u.Maintains (s.locate query v) fun _ => True := by
  unfold locate
  split
  · exact .pure trivial
  · split
    · exact (maintains_reportedForms h).bind fun _ _ => .throw nofun
    · exact .throw nofun

theorem maintains_get (s : Shape) (h : u.Held v) : u.Maintains (s.get v) fun _ => True :=
  (maintains_locate s _ h).bind fun _ _ => .pure trivial

theorem maintains_sizeOver (s : Shape) {axes : List Value} (h : ∀ v ∈ axes, u.Held v) :
    u.Maintains (s.sizeOver axes) fun _ => True := by
  have chosen : u.Maintains (axes.mapM (s.locate .size)) fun _ => True := by
    induction axes with
    | nil => exact .pure trivial
    | cons v rest ih =>
      obtain ⟨hv, hrest⟩ := List.forall_mem_cons.mp h
      rw [List.mapM_cons]
      exact (maintains_locate s _ hv).bind fun _ _ => (ih hrest).bind fun _ _ => .pure trivial
  unfold sizeOver
  split
  · exact .pure trivial
  · exact chosen.bind fun _ _ => .pure trivial

theorem maintains_boundOf (s : Shape) (bound : Bound) (h : u.Held v) :
    u.Maintains (s.boundOf bound v) fun _ => True := by
  unfold boundOf
  split
  · exact .pure trivial
  · exact (maintains_reportedForms h).bind fun _ _ => .throw nofun

/-- A slice is constructed again, so it is valid or refused. -/
theorem maintains_between (s : Shape) (first past : Int) :
    u.Maintains (s.between first past) Valid := by
  unfold between
  split
  · exact maintains_checked _
  · exact .throw Failure.showing_ne_unfit

/-- A slice is valid, whichever way its bounds are given. -/
theorem maintains_slice (s : Shape) {first past : Value} (hf : u.Held first) (hp : u.Held past) :
    u.Maintains (s.slice first past) Valid := by
  have hp' : u.Held (s.pastOr past) := by
    unfold pastOr
    split
    · exact u.hereditary.int _
    · exact hp
  exact (maintains_boundOf s _ hf).bind fun first _ =>
    (maintains_boundOf s _ hp').bind fun past _ => maintains_between s first past

end Shape
end TensorShape

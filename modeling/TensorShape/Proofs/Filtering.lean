import TensorShape.Proofs.GridSizes
import TensorShape.Proofs.Revalidation

/-! # Choosing axes by their tags

A predicate whose answers depend on the tag alone decides for each axis by itself, so what it
keeps of a shape is the list filtered by it, and two predicates may be asked in either order or
at once (`keep_keep`).  A predicate and its opposite tear the axes of a shape apart, however they
are interleaved, but nothing is lost: the dimensions of the two parts are those of the shape in
another order (`keep_perm`), and that is all that ranks, counts and sizes depend on.

The predicate is asked about each axis in turn and while the kept ones are gathered, which leaves
no traces but the calls (`Eval.Hands`).  If it raises, no axis after that is looked at and nothing
has been constructed that could have been refused (`filterAxes_raised`). -/
namespace TensorShape

variable {α β : Type}

/-- The work gives a result, whatever has happened before, and leaves no traces but the axes that it
hands to callbacks. -/
def Eval.Hands (work : Eval α) (axes : List Axis) (a : α) : Prop :=
  ∀ run, work run = (.ok a, run.handed axes)

namespace Eval.Hands

variable {work : Eval α} {axes axes' : List Axis} {a : α}

theorem pure (a : α) : Hands (Pure.pure a) [] a := by
  intro run
  rw [Run.handed_nil]
  rfl

theorem bind {next : α → Eval β} {b : β} (first : Hands work axes a)
    (second : Hands (next a) axes' b) : Hands (work >>= next) (axes ++ axes') b := by
  intro run
  rw [bind_of_ok (first run), second, Run.handed_append]

/-- What comes after work that hands nothing over has handed over all axes. -/
theorem bind_pure {next : α → Eval β} {b : β} (first : Hands work axes a)
    (second : next a = Pure.pure b) : Hands (work >>= next) axes b := by
  have joined := first.bind (second ▸ pure b : Hands (next a) [] b)
  rwa [List.append_nil] at joined

/-- Going through axes hands them over one by one if each step does. -/
theorem traverse {f : Nat → Axis → Eval β} {call : Nat}
    (h : ∀ e ∈ axes.zipIdx call, ∃ b, Hands (f e.2 e.1) [e.1] b) :
    ∃ bs, Hands (traverse f call axes) axes bs := by
  induction axes generalizing call with
  | nil => exact ⟨[], pure []⟩
  | cons axis rest ih =>
    rw [List.zipIdx_cons, List.forall_mem_cons] at h
    obtain ⟨⟨b, first⟩, others⟩ := h
    obtain ⟨bs, done⟩ := ih others
    exact ⟨b :: bs, first.bind (done.bind_pure rfl)⟩

end Eval.Hands

namespace Shape

open Eval (Hands)

variable {s t : Shape} {wanted wanted' : Predicate} {p q : Tag → Bool}

/-- In some call a predicate answers with a value that counts as true or as false. -/
def Predicate.Says (wanted : Predicate) (call : Nat) (tag : Tag) (b : Bool) : Prop :=
  ∃ v, wanted call tag = .ok v ∧ v.truthy = .ok b

/-- What the answers count as depends on the tag alone, and the predicate never raises. -/
def Predicate.Decides (wanted : Predicate) (p : Tag → Bool) : Prop :=
  ∀ call tag, wanted.Says call tag (p tag)

/-! ## What is kept -/

theorem keep_keep (s : Shape) (p q : Tag → Bool) :
    (s.keep p).keep q = s.keep fun tag => p tag && q tag := by
  rw [keep, axes_keep, List.filter_filter]
  simp only [Bool.and_comm, keep]

theorem keep_append (valid : s.Valid) (t : Shape) (p : Tag → Bool) :
    (s ++ t).keep p = s.keep p ++ t.keep p := by
  rw [keep, axes_append t valid, List.filter_append]
  exact congrArg₂ mk List.map_append List.map_append

theorem satisfies_of_keep {tag : Tag} (h : tag ∈ (s.keep p).layout) : p tag = true := by
  obtain ⟨axis, kept, rfl⟩ := List.mem_map.mp h
  exact (List.mem_filter.mp kept).2

/-- The dimensions that a predicate and its opposite keep are those of the shape. -/
theorem keep_perm (valid : s.Valid) (p : Tag → Bool) :
    ((s.keep p).dimensions ++ (s.keep fun tag => !p tag).dimensions).Perm s.dimensions := by
  have split := (List.filter_append_perm (fun axis : Axis => p axis.tag) s.axes).map Axis.dimension
  rwa [List.map_append, valid.map_dimension_axes] at split

/-- The sizes of two shapes that share the dimensions of a third make up its size. -/
theorem timesSize_of_perm {u : Shape} (hs : s.Valid) (ht : t.Valid)
    (h : (s.dimensions ++ t.dimensions).Perm u.dimensions) : timesSize s.size t.size = u.size :=
  (gridSize_append hs.bounded ht.bounded).symm.trans (gridSize_perm h)

/-! ## Asking for it -/

/-- A predicate that decides by the tags is handed each axis once. -/
theorem hands_filterAxes (valid : s.Valid) (h : wanted.Decides p) :
    Hands (s.filterAxes wanted) s.axes (s.keep p) := by
  intro run
  rw [filterAxes_apply valid h, chosen_of_tag]
  rfl

theorem hands_filterAxes_twice (valid : s.Valid) (h : wanted.Decides p) (h' : wanted'.Decides q) :
    Hands (do (← s.filterAxes wanted).filterAxes wanted') (s.axes ++ (s.keep p).axes)
      (s.keep fun tag => p tag && q tag) := by
  have second := hands_filterAxes (valid.keep p) h'
  rw [keep_keep] at second
  exact (hands_filterAxes valid h).bind second

/-- What a predicate raises comes out, and the axes after that are not asked about. -/
theorem filterAxes_raised {before later : List Axis} {axis : Axis} {text : String}
    (split : s.axes = before ++ axis :: later)
    (answered : ∀ e ∈ before.zipIdx, ∃ b, wanted.Says e.2 e.1.tag b)
    (raised : wanted before.length axis.tag = .error text) (run : Run) :
    s.filterAxes wanted run = (.error (.callback text), run.handed (before ++ [axis])) := by
  obtain ⟨kept, done⟩ : ∃ kept, Hands (Eval.traverse (judge wanted) 0 before) before kept := by
    refine Hands.traverse fun e held => ?_
    obtain ⟨b, v, answer, judged⟩ := answered e held
    exact ⟨_, judge_apply answer judged⟩
  have failed : judge wanted (0 + before.length) axis (run.handed before)
      = (.error (.callback text), (run.handed before).handed [axis]) := by
    rw [Nat.zero_add, judge, raised]
    rfl
  have passed := Eval.traverse_of_error (done run) failed later
  rw [Run.handed_append, ← split] at passed
  rw [filterAxes_def, eachAxis, bind_of_error (bind_of_error passed _)]

/-! ## Together -/

/-- The laws of choosing axes by their tags.  What is asked is handed each axis once and in order,
and there are no other traces. -/
structure FilterAlgebra : Prop where
  kept : ∀ {s : Shape} {wanted : Predicate} {p : Tag → Bool}, s.Valid → wanted.Decides p →
    Hands (s.filterAxes wanted) s.axes (s.keep p)
  /-- Two predicates choose the same one after the other, in either order, and at once. -/
  chained : ∀ {s : Shape} {wanted wanted' both : Predicate} {p q : Tag → Bool}, s.Valid →
    wanted.Decides p → wanted'.Decides q → both.Decides (fun tag => p tag && q tag) →
    Hands (do (← s.filterAxes wanted).filterAxes wanted') (s.axes ++ (s.keep p).axes)
        (s.keep fun tag => p tag && q tag) ∧
      Hands (do (← s.filterAxes wanted').filterAxes wanted) (s.axes ++ (s.keep q).axes)
        (s.keep fun tag => p tag && q tag) ∧
      Hands (s.filterAxes both) s.axes (s.keep fun tag => p tag && q tag)
  /-- A predicate has nothing against what it has chosen. -/
  again : ∀ {s : Shape} {wanted : Predicate} {p : Tag → Bool}, s.Valid → wanted.Decides p →
    Hands (do (← s.filterAxes wanted).filterAxes wanted) (s.axes ++ (s.keep p).axes) (s.keep p)
  joined : ∀ {s t : Shape} {wanted : Predicate} {p : Tag → Bool}, s.Valid → t.Valid →
    wanted.Decides p →
    Hands (do (← s.concatenate (.shape t)).filterAxes wanted) (s ++ t).axes ((s ++ t).keep p) ∧
      Hands (do
        let left ← s.filterAxes wanted
        let right ← t.filterAxes wanted
        left.concatenate (.shape right)) (s.axes ++ t.axes) ((s ++ t).keep p)
  /-- A predicate and its opposite choose two parts of a shape. -/
  parted : ∀ {s : Shape} {wanted unwanted : Predicate} {p : Tag → Bool}, s.Valid →
    wanted.Decides p → unwanted.Decides (fun tag => !p tag) →
    ∃ kept left, Hands (s.filterAxes wanted) s.axes kept ∧
      Hands (s.filterAxes unwanted) s.axes left ∧
      (∀ tag ∈ kept.layout, p tag = true) ∧ (∀ tag ∈ left.layout, p tag = false) ∧
      kept.rank + left.rank = s.rank ∧ kept.unknownCount + left.unknownCount = s.unknownCount ∧
      timesSize kept.size left.size = s.size
  /-- What a predicate raises at an axis comes out as it is, after a call for each axis before and
  for that one. -/
  raised : ∀ {s : Shape} {wanted : Predicate} {before later : List Axis} {axis : Axis}
    {text : String}, s.axes = before ++ axis :: later →
    (∀ e ∈ before.zipIdx, ∃ b, wanted.Says e.2 e.1.tag b) →
    wanted before.length axis.tag = .error text → ∀ run : Run,
    s.filterAxes wanted run = (.error (.callback text), run.handed (before ++ [axis]))

/-- **Choosing axes by their tags is filtering**, with one call for each axis looked at. -/
theorem filterAlgebra : FilterAlgebra where
  kept := hands_filterAxes
  chained {s _ _ _ p q} valid h h' both := by
    have swapped := hands_filterAxes_twice valid h' h
    simp only [Bool.and_comm (q _)] at swapped
    exact ⟨hands_filterAxes_twice valid h h', swapped, hands_filterAxes valid both⟩
  again valid h := by
    have twice := hands_filterAxes_twice valid h h
    simpa only [Bool.and_self] using twice
  joined {s t wanted p} hs ht h := by
    constructor
    · rw [concatenate_eq hs ht, pure_bind]
      exact hands_filterAxes (hs.append ht) h
    · rw [keep_append hs]
      refine (hands_filterAxes hs h).bind ((hands_filterAxes ht h).bind_pure ?_)
      exact concatenate_eq (hs.keep p) (ht.keep p)
  parted {s _ _ p} valid h h' := by
    have perm := keep_perm valid p
    refine ⟨_, _, hands_filterAxes valid h, hands_filterAxes valid h', fun _ => satisfies_of_keep,
      fun tag held => ?_, ?_, ?_, timesSize_of_perm (valid.keep _) (valid.keep _) perm⟩
    · have opposite := satisfies_of_keep held
      simpa using opposite
    · exact List.length_append.symm.trans perm.length_eq
    · exact List.count_append.symm.trans (perm.count_eq _)
  raised := filterAxes_raised

/-- Parts of sizes zero and unknown of an unknown size, and a predicate that raises when it is asked
about the second axis. -/
theorem filterAlgebra_interleaved :
    let s : Shape := ⟨[0, -1, 5], [.batch, .width, .batch]⟩
    let wanted : Predicate := fun _ tag => .ok (if tag = .batch then .int 1 else .list [])
    let unwanted : Predicate := fun _ tag => .ok (.bool (tag ≠ .batch))
    let doubtful : Predicate :=
      fun call _ => if call = 0 then .ok (.featureless default) else .error "unsure"
    s.Valid ∧
      (∃ kept left, Hands (s.filterAxes wanted) s.axes kept ∧
        Hands (s.filterAxes unwanted) s.axes left ∧ timesSize kept.size left.size = -1) ∧
      s.filterAxes doubtful ⟨.off, [], [], []⟩
        = (.error (.callback "unsure"), ⟨.off, [], [], [⟨0, .batch⟩, ⟨-1, .width⟩]⟩) := by
  intro s wanted unwanted doubtful
  have valid : s.Valid := by decide
  have decides : wanted.Decides (· = .batch) := fun _ tag => ⟨_, rfl, by cases tag <;> rfl⟩
  have opposes : unwanted.Decides (fun tag => !(tag = .batch)) :=
    fun _ tag => ⟨_, rfl, by cases tag <;> rfl⟩
  have answered : ∀ e ∈ [(⟨0, .batch⟩ : Axis)].zipIdx, ∃ b, doubtful.Says e.2 e.1.tag b :=
    List.forall_mem_singleton.mpr ⟨true, .featureless default, rfl, rfl⟩
  obtain ⟨kept, left, keeps, leaves, -, -, -, -, sizes⟩ :=
    filterAlgebra.parted valid decides opposes
  exact ⟨valid, ⟨kept, left, keeps, leaves, sizes⟩, filterAlgebra.raised rfl answered rfl _⟩

end Shape
end TensorShape

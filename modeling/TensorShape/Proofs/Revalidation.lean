import TensorShape.Proofs.Evaluation

/-! # Checking a valid shape again

Every derivation hands its two lists back to the constructor.  For lists that come
from valid shapes the checks find nothing (`checked_of_valid`), so a derivation is
what it makes of the lists: `slice_eq`, `concatenate_eq`, `ofPairs_pairsOf`,
`filterAxes_apply`, `mapAxes_apply`. -/
namespace TensorShape

variable {α β : Type}

namespace Eval

theorem traverse_map (f : Nat → β → Eval γ) (e : α → β) (position : Nat) (l : List α) :
    traverse f position (l.map e) = traverse (fun position a => f position (e a)) position l := by
  induction l generalizing position with
  | nil => rfl
  | cons a rest ih => simp only [List.map_cons, traverse, ih]

theorem traverse_append (f : Nat → α → Eval β) (position : Nat) (l l' : List α) :
    traverse f position (l ++ l') = do
      let bs ← traverse f position l
      let bs' ← traverse f (position + l.length) l'
      return bs ++ bs' := by
  induction l generalizing position with
  | nil => simp [traverse]
  | cons a rest ih =>
    simp only [List.cons_append, traverse, ih, bind_assoc, pure_bind, List.length_cons,
      Nat.add_assoc, Nat.add_comm 1]

/-- A step that fails ends going through a list, after the steps before it have succeeded. -/
theorem traverse_of_error {f : Nat → α → Eval β} {position : Nat} {before : List α} {a : α}
    {bs : List β} {run between after : Run} {failure : Failure}
    (done : traverse f position before run = (.ok bs, between))
    (failed : f (position + before.length) a between = (.error failure, after)) (later : List α) :
    traverse f position (before ++ a :: later) run = (.error failure, after) := by
  rw [traverse_append, bind_of_ok done]
  exact bind_of_error (bind_of_error failed _) _

/-- Going through a list leaves no traces if nothing done on the way does. -/
theorem traverse_eq_pure {f : Nat → α → Eval β} {g : α → β}
    (h : ∀ position a, f position a = pure (g a)) (position : Nat) (l : List α) :
    traverse f position l = pure (l.map g) := by
  induction l generalizing position with
  | nil => rfl
  | cons a rest ih => simp only [traverse, h, ih, pure_bind, List.map_cons]

theorem eachItem_of_pass {v : Value} {pass : Pass} (h : v.pass? = some pass)
    (f : Nat → Value → Eval β) :
    eachItem f v = do
      let results ← traverse f 0 pass.items
      finish pass.fault
      return results := by
  simp only [eachItem, h]

theorem items_of_pass {v : Value} {held : List Value} (h : v.pass? = some (.ofList held)) :
    items v = pure held := by
  rw [items, eachItem_of_pass h,
    traverse_eq_pure (f := fun _ item => pure item) (g := id) fun _ _ => rfl]
  simp [Pass.ofList, finish]

end Eval

/-! ## Pairing two lists -/

namespace Pass

/-- The fault with which the pairing of `m` items with `n` breaks off, if it does. -/
def unevenness (m n : Nat) : Option Fault :=
  if n < m then some .secondShorter else if m < n then some .secondLonger else none

theorem unevenness_eq_none_iff {m n : Nat} : unevenness m n = none ↔ m = n := by
  unfold unevenness
  split
  · exact iff_of_false nofun (by omega)
  · split
    · exact iff_of_false nofun (by omega)
    · exact iff_of_true rfl (by omega)

/-- Passes that end well are paired up to the end of the shorter one. -/
theorem pairs_eq {p q : Pass} (hp : p.fault = none) (hq : q.fault = none) (xs ys : List Value) :
    zip.pairs p q xs ys = (xs.zip ys, unevenness xs.length ys.length) := by
  induction xs generalizing ys with
  | nil =>
    cases ys with
    | nil => simp [zip.pairs, unevenness, hp, hq]
    | cons y ys => simp [zip.pairs, unevenness, hp]
  | cons x xs ih =>
    cases ys with
    | nil => simp [zip.pairs, unevenness, hq]
    | cons y ys =>
      -- an item taken off both lists leaves the comparison of their lengths as it was
      have same : unevenness (x :: xs).length (y :: ys).length = unevenness xs.length ys.length :=
        ite_congr (propext Nat.succ_lt_succ_iff) (fun _ => rfl) fun _ =>
          ite_congr (propext Nat.succ_lt_succ_iff) (fun _ => rfl) fun _ => rfl
      rw [same]
      exact congrArg (fun zipped => (_ :: zipped.1, zipped.2)) (ih ys)

end Pass

namespace Shape

theorem dimensionsFrom_int {ds : List Int} (h : ∀ d ∈ ds, Extent.unknownMark ≤ d) (axis : Nat) :
    dimensionsFrom axis (ds.map .int) = .ok ds := by
  induction ds generalizing axis with
  | nil => rfl
  | cons d ds ih =>
    obtain ⟨first, rest⟩ := List.forall_mem_cons.mp h
    simp only [List.map_cons, dimensionsFrom, dimensionFrom, Value.integer?, ih rest,
      if_neg (Int.not_lt.mpr first)]
    rfl

theorem layoutFrom_tags (rank : Nat) (ts : Layout) :
    layoutFrom rank (.tuple (ts.map .tag)) = pure ts := by
  rw [layoutFrom, Eval.eachItem_of_pass rfl]
  · simp [Pass.ofList, Eval.traverse_map, Eval.finish,
      Eval.traverse_eq_pure (f := fun position t => tagEntry position (.tag t)) (g := id)
        fun _ _ => rfl]
  all_goals nofun

theorem construct_of_valid {s : Shape} (h : s.Valid) :
    construct (Value.dimensions s) (.tuple (Value.layout s)) = pure s := by
  have assembled : assemble (Value.dimensions s) (.tuple (Value.layout s)) = pure s := by
    unfold assemble Value.dimensions Value.layout
    rw [dimensionsFrom_int h.bounded]
    change (do
      let tags ← layoutFrom s.rank (.tuple (s.layout.map .tag))
      if tags.length = s.rank then return ⟨s.dimensions, tags⟩
      else .reject (.unequalLengths s.rank tags.length) : Eval Shape) = _
    rw [layoutFrom_tags, pure_bind, if_pos h.layout_length]
  rw [construct, assembled]
  rfl

/-- A tuple as the only argument holds the dimensions. -/
theorem ofArguments_tuple (items : List Value) (layout : Value) :
    ofArguments [.tuple items] layout = construct items layout := by
  simp [ofArguments, Value.integer?, Value.isDeclaredIterable, Value.isIterable, Value.pass?,
    Eval.items_of_pass (v := .tuple items) rfl]

/-- The checks find nothing wrong with a valid shape. -/
theorem checked_of_valid {s : Shape} (h : s.Valid) : s.checked = pure s := by
  rw [checked, ofArguments_tuple, construct_of_valid h]

/-! ## Choosing axes -/

theorem axisAt?_of_lt {s : Shape} {i : Nat} (within : i < s.rank) :
    s.axisAt? i = some ⟨i, within⟩ := dif_pos within

/-- Only an integer from zero up to the rank is an axis. -/
theorem axisAt?_eq_some_iff {s : Shape} {n : Int} {i : Fin s.rank} :
    s.axisAt? n = some i ↔ n = (i : Nat) := by
  constructor
  · intro found
    match n with
    | .ofNat k =>
      by_cases within : k < s.rank
      · rw [show s.axisAt? (.ofNat k) = some ⟨k, within⟩ from axisAt?_of_lt within] at found
        cases found
        rfl
      · cases found.symm.trans (dif_neg within)
    | .negSucc k => cases found
  · rintro rfl
    exact axisAt?_of_lt i.isLt

/-- A value chooses an axis if it is an integer that is one, and can be asked for it. -/
theorem axis?_eq_some_iff {s : Shape} {v : Value} {i : Fin s.rank} :
    s.axis? v = some i ↔ v.isComparable = true ∧ v.integer? = some ((i : Nat) : Int) := by
  rw [axis?]
  split
  case isTrue compares =>
    simp [compares, Option.bind_eq_some_iff, axisAt?_eq_some_iff]
  case isFalse silent => exact iff_of_false nofun fun h => silent h.1

theorem locate_of_axis {s : Shape} (query : AxisQuery) {v : Value} {i : Fin s.rank}
    (h : s.axis? v = some i) : s.locate query v = pure i := by
  rw [locate, h]

theorem locate_of_within {s : Shape} (query : AxisQuery) {v : Value} {i : Nat}
    (compares : v.isComparable = true) (integer : v.integer? = some (i : Int))
    (within : i < s.rank) : s.locate query v = pure ⟨i, within⟩ :=
  locate_of_axis query (axis?_eq_some_iff.mpr ⟨compares, integer⟩)

/-- What does not compare with integers is no axis, and asking for it is a fault. -/
theorem locate_of_not_comparable (s : Shape) (query : AxisQuery) {v : Value}
    (silent : v.isComparable = false) :
    s.locate query v = throw (.fault (.notComparable v.typeName)) := by
  have none : s.axis? v = none := if_neg (by simp [silent])
  rw [locate, none]
  simp [silent]

/-- An axis below the rank has a dimension. -/
theorem get_of_within {s : Shape} {v : Value} {i : Nat} (compares : v.isComparable = true)
    (integer : v.integer? = some (i : Int)) (within : i < s.rank) :
    s.get v = pure (s.dimensionAt ⟨i, within⟩) := by
  rw [get, locate_of_within .get compares integer within, pure_bind]

theorem get_of_not_comparable {s : Shape} {v : Value} (silent : v.isComparable = false) :
    s.get v = throw (.fault (.notComparable v.typeName)) := by
  rw [get, locate_of_not_comparable s .get silent]
  rfl

/-! ## Slices and joins -/

theorem boundOf_eq (s : Shape) (bound : Bound) {v : Value} {n : Int} (h : v.integer? = some n) :
    s.boundOf bound v = pure n := by
  simp only [boundOf, h]

/-- A slice between integers in order is the segment between them. -/
theorem slice_eq {s : Shape} (h : s.Valid) {first past : Value} {b e : Int}
    (hb : first.integer? = some b) (he : (s.pastOr past).integer? = some e)
    (order : 0 ≤ b ∧ b ≤ e ∧ e ≤ s.rank) :
    s.slice first past = pure (s.segment b.toNat e.toNat) := by
  -- the guard of `between` asks for each bound by itself before it asks for their order
  have within : s.Counts b ∧ s.Counts e ∧ b ≤ e := by unfold Counts; omega
  simp only [slice, boundOf_eq s _ hb, boundOf_eq s _ he, pure_bind, between, if_pos within]
  exact checked_of_valid (h.segment _ _)

/-- Integers that are no bounds of the shape, or out of order, are refused, if they can be shown. -/
theorem slice_outside (s : Shape) {first past : Value} {b e : Int} (hb : first.integer? = some b)
    (he : (s.pastOr past).integer? = some e) (outside : ¬ (0 ≤ b ∧ b ≤ e ∧ e ≤ s.rank)) :
    s.slice first past = throw (.showing (s.longBounds b e) (.invalidSlice b e s.rank)) := by
  have refused : ¬ (s.Counts b ∧ s.Counts e ∧ b ≤ e) := by unfold Counts; omega
  simp only [slice, boundOf_eq s _ hb, boundOf_eq s _ he, pure_bind, between, if_neg refused]

/-- Numbers of axes can be shown. -/
theorem longBounds_of_counts {s : Shape} {b e : Int} (hb : s.Counts b) (he : s.Counts e) :
    s.longBounds b e = [] := by
  simp [longBounds, hb, he]

theorem concatenate_eq {s t : Shape} (hs : s.Valid) (ht : t.Valid) :
    s.concatenate (.shape t) = pure (s ++ t) :=
  checked_of_valid (hs.append ht)

/-! ## Pairs -/

/-- Going through dimensions and tags side by side gives the axes. -/
theorem zip_pairs {p q : Pass} (hp : p.fault = none) (hq : q.fault = none) (s : Shape) :
    Pass.zip.pairs p q (Value.dimensions s) (Value.layout s)
      = (s.axes.map fun axis => (.int axis.dimension, .tag axis.tag), s.unevenness) := by
  have paired : (Value.dimensions s).zip (Value.layout s)
      = s.axes.map fun axis => (.int axis.dimension, .tag axis.tag) := by
    rw [axes, List.map_zipWith, Value.dimensions, Value.layout, List.zip_map, List.zip,
      List.map_zipWith]
    rfl
  rw [Pass.pairs_eq hp hq, paired, Value.dimensions, Value.layout, List.length_map,
    List.length_map]
  rfl

theorem Valid.map_dimension_axes {s : Shape} (h : s.Valid) :
    s.axes.map Axis.dimension = s.dimensions := congrArg dimensions (ofAxes_axes h)

theorem Valid.unevenness {s : Shape} (h : s.Valid) : s.unevenness = none := by
  simp [Shape.unevenness, h.layout_length]

/-- The pairs of a valid shape are its axes, and a pass over them ends well. -/
theorem pairsOf_eq {s : Shape} (h : s.Valid) :
    Value.pairsOf s = .view none (s.axes.map fun axis => (.int axis.dimension, .tag axis.tag)) none
      (.ok (Value.dimensions s).length) := by
  have zipped : (Pass.ofList (Value.dimensions s)).zip (.ofList (Value.layout s)) = _ :=
    zip_pairs rfl rfl s
  rw [h.unevenness] at zipped
  change Value.view none _ _ _ = _
  rw [zipped]
  rfl

theorem pass?_pairsOf {s : Shape} (h : s.Valid) :
    (Value.pairsOf s).pass? = some (.ofList (s.axes.map .ofAxis)) := by
  rw [pairsOf_eq h, Value.pass?, List.map_map]
  rfl

theorem pairInPrint_axis (live : Source → Draw String) {axis : Axis}
    (fit : Decimal.fits axis.dimension = true) :
    Value.pairInPrint (Value.writeWith live (.int axis.dimension)) (.int axis.dimension)
      (.tag axis.tag) = pure axis.displayPair := by
  have shown : Fault.showing [axis.dimension] (toString axis.dimension)
      = .ok (toString axis.dimension) :=
    Fault.showing_of_fit (List.forall_mem_singleton.mpr fit)
  simp only [Value.pairInPrint, Value.displayedAs, Value.writeWith, shown]
  rfl

theorem writePairs_axes (live : Source → Draw String) {axes : List Axis}
    (fit : Decimal.Fit (axes.map Axis.dimension)) :
    Value.writePairs live (axes.map fun axis => (.int axis.dimension, .tag axis.tag))
      = pure (axes.map Axis.displayPair) := by
  induction axes with
  | nil => rfl
  | cons axis rest ih =>
    obtain ⟨first, others⟩ := List.forall_mem_cons.mp fit
    simp only [List.map_cons, Value.writePairs, ih others, pairInPrint_axis live first, pure_bind]

/-- The pairs of a valid shape can be written if its dimensions can. -/
theorem write_pairsOf {s : Shape} (h : s.Valid) (printable : s.Printable) :
    (Value.pairsOf s).write = pure s.writtenPairs := by
  have fit : Decimal.Fit (s.axes.map Axis.dimension) := by rwa [h.map_dimension_axes]
  simp only [Value.write, pairsOf_eq h, Value.writeWith, writePairs_axes _ fit]
  rfl

/-- A shape can be written if its dimensions can, and then each time with the same form. -/
theorem write_shape {s : Shape} (printable : s.Printable) :
    (Value.shape s).write = pure s.written := by
  have shown : Fault.showing s.dimensions s.written = .ok s.written :=
    Fault.showing_of_fit printable
  simp only [Value.write, Value.writeWith, shown]
  rfl

theorem answer_display {s : Shape} (printable : s.Printable) :
    s.answer .display = .ok (.plain s.display) := by
  rw [answer, Fault.showing_of_fit printable]
  rfl

theorem splitPair_of_parts (axis : Nat) {v : Value} {parts : Value × Value}
    (h : v.pair? = pure (some parts)) : splitPair axis v = pure parts := by
  rw [splitPair, h]
  rfl

/-- A value that holds two items of its own is a pair. -/
theorem splitPair_of_pass (axis : Nat) {v x t : Value}
    (h : v.source = .ok (.own (.ofList [x, t]))) : splitPair axis v = pure (x, t) := by
  refine splitPair_of_parts axis ?_
  rw [Value.pair?, Value.pair?.taken, h]
  rfl

/-- Pairs that are axes are checked like the shape that has these axes. -/
theorem ofParts_axes (axes : List Axis) :
    ofParts (axes.map fun axis => (.int axis.dimension, .tag axis.tag))
      = (ofAxes axes).checked := by
  simp [ofParts, checked, ofAxes, Value.dimensions, Value.layout, Function.comp_def]

theorem ofParts_eq {axes : List Axis} (h : (ofAxes axes).Valid) :
    ofParts (axes.map fun axis => (.int axis.dimension, .tag axis.tag)) = pure (ofAxes axes) := by
  rw [ofParts_axes, checked_of_valid h]

/-- The axes of a pass over pairs are those of the shape that is checked. -/
theorem ofPairs_axes {v : Value} {axes : List Axis}
    (held : v.pass? = some (.ofList (axes.map .ofAxis))) :
    ofPairs v = (ofAxes axes).checked := by
  rw [ofPairs, Eval.eachItem_of_pass held]
  simp only [Pass.ofList, Eval.traverse_map, Eval.finish, pure_bind, bind_pure]
  rw [Eval.traverse_eq_pure (g := fun axis => (.int axis.dimension, .tag axis.tag))
    fun position axis => splitPair_of_pass position rfl, pure_bind, ofParts_axes]

theorem ofPairs_of_pass {v : Value} {axes : List Axis} (h : (ofAxes axes).Valid)
    (held : v.pass? = some (.ofList (axes.map .ofAxis))) : ofPairs v = pure (ofAxes axes) := by
  rw [ofPairs_axes held, checked_of_valid h]

theorem ofPairs_pairsOf {s : Shape} (h : s.Valid) : ofPairs (.pairsOf s) = pure s := by
  have same := ofAxes_axes h
  rw [ofPairs_of_pass (by rwa [same]) (pass?_pairsOf h), same]

end Shape

/-! ## Callbacks -/

/-- The traces after some more axes have been handed to a callback. -/
def Run.handed (run : Run) (axes : List Axis) : Run := { run with calls := run.calls ++ axes }

@[simp] theorem Run.handed_nil (run : Run) : run.handed [] = run := by simp [Run.handed]

theorem Run.handed_append (run : Run) (axes axes' : List Axis) :
    (run.handed axes).handed axes' = run.handed (axes ++ axes') := by simp [Run.handed]

theorem Run.handed_cons (run : Run) (axis : Axis) (rest : List Axis) :
    run.handed (axis :: rest) = (run.handed [axis]).handed rest := by simp [Run.handed]

namespace Shape

theorem handOver_apply (axis : Axis) {answer : Except String Value} {v : Value}
    (h : answer = .ok v) (run : Run) : handOver axis answer run = (.ok v, run.handed [axis]) := by
  rw [h]
  rfl

/-- Going through axes hands them over one by one if each step does. -/
theorem traverse_handed {f : Nat → Axis → Eval β} {g : Nat → Axis → β}
    (h : ∀ call axis run, f call axis run = (.ok (g call axis), run.handed [axis]))
    (call : Nat) (axes : List Axis) (run : Run) :
    Eval.traverse f call axes run
      = (.ok ((axes.zipIdx call).map fun e => g e.2 e.1), run.handed axes) := by
  induction axes generalizing call run with
  | nil => rw [Run.handed_nil]; rfl
  | cons axis rest ih =>
    rw [Eval.traverse, bind_of_ok (h call axis run), bind_of_ok (ih _ _),
      Run.handed_cons run axis rest]
    rfl

theorem eachAxis_handed {s : Shape} (valid : s.Valid) {f : Nat → Axis → Eval β}
    {g : Nat → Axis → β}
    (h : ∀ call axis run, f call axis run = (.ok (g call axis), run.handed [axis])) (run : Run) :
    s.eachAxis f run = (.ok (s.axes.zipIdx.map fun e => g e.2 e.1), run.handed s.axes) := by
  rw [eachAxis, bind_of_ok (traverse_handed h _ _ _), valid.unevenness]
  rfl

/-- Hands the tag of an axis to a predicate, and keeps the axis if the answer counts as true. -/
def judge (wanted : Predicate) (call : Nat) (axis : Axis) : Eval (Option Value) := do
  let answer ← handOver axis (wanted call axis.tag)
  return if ← .ofFault answer.truthy then some (Value.ofAxis axis) else none

/-- Hands an axis to a callback, and takes apart the pair that it answers. -/
def remake (transform : Transform) (call : Nat) (axis : Axis) : Eval (Value × Value) := do
  splitPair call (← handOver axis (transform call axis))

theorem filterAxes_def (s : Shape) (wanted : Predicate) :
    s.filterAxes wanted
      = s.eachAxis (judge wanted) >>= fun kept => ofPairs (.generated (kept.filterMap id)) := rfl

theorem mapAxes_def (s : Shape) (transform : Transform) :
    s.mapAxes transform = s.eachAxis (remake transform) >>= ofParts := rfl

/-- The axes that a predicate wants, when its answers may change from call to call. -/
def chosen (judged : Nat → Tag → Bool) (axes : List Axis) : List Axis :=
  (axes.zipIdx.filter fun e => judged e.2 e.1.tag).map Prod.fst

theorem chosen_of_tag (p : Tag → Bool) (axes : List Axis) :
    chosen (fun _ => p) axes = axes.filter fun axis => p axis.tag := by
  have mapped := List.filter_map (f := Prod.fst) (p := fun axis : Axis => p axis.tag)
    (l := axes.zipIdx)
  rw [List.zipIdx_map_fst] at mapped
  exact mapped.symm

theorem filterMap_map_ite {p : α → Bool} {g : α → β} (l : List α) :
    (l.map fun a => if p a then some (g a) else none).filterMap id = (l.filter p).map g := by
  induction l with
  | nil => rfl
  | cons a rest ih =>
    rw [List.map_cons, List.filter_cons]
    cases p a with
    | true => exact congrArg (g a :: ·) ih
    | false => exact ih

theorem mem_of_mem_chosen {judged : Nat → Tag → Bool} {axes : List Axis} {axis : Axis}
    (h : axis ∈ chosen judged axes) : axis ∈ axes := by
  obtain ⟨e, held, rfl⟩ := List.mem_map.mp h
  exact List.fst_mem_of_mem_zipIdx (List.mem_filter.mp held).1

/-- A predicate that answers is handed the tag, and the axis is kept if the answer counts as
true. -/
theorem judge_apply {wanted : Predicate} {call : Nat} {axis : Axis} {v : Value} {b : Bool}
    (answered : wanted call axis.tag = .ok v) (judged : v.truthy = .ok b) (run : Run) :
    judge wanted call axis run
      = (.ok (if b then some (Value.ofAxis axis) else none), run.handed [axis]) := by
  rw [judge, bind_of_ok (handOver_apply axis answered run), judged]
  rfl

theorem filterAxes_apply {s : Shape} (valid : s.Valid) {wanted : Predicate}
    {judged : Nat → Tag → Bool}
    (h : ∀ call tag, ∃ v, wanted call tag = .ok v ∧ v.truthy = .ok (judged call tag)) (run : Run) :
    s.filterAxes wanted run = (.ok (ofAxes (chosen judged s.axes)), run.handed s.axes) := by
  have step (call : Nat) (axis : Axis) (run : Run) : judge wanted call axis run
      = (.ok (if judged call axis.tag then some (Value.ofAxis axis) else none),
        run.handed [axis]) := by
    obtain ⟨v, answered, judgement⟩ := h call axis.tag
    exact judge_apply answered judgement run
  -- the axes that are not wanted leave gaps, which drop out
  have kept : (s.axes.zipIdx.map fun e =>
        if judged e.2 e.1.tag then some (Value.ofAxis e.1) else none).filterMap id
      = (chosen judged s.axes).map .ofAxis := by
    rw [filterMap_map_ite, chosen, List.map_map]
    rfl
  have bounded : (ofAxes (chosen judged s.axes)).Valid :=
    valid_ofAxes_iff.mpr fun axis held => valid.bounded_axes axis (mem_of_mem_chosen held)
  rw [filterAxes_def, bind_of_ok (eachAxis_handed valid step run), kept,
    ofPairs_of_pass bounded rfl]
  rfl

/-- Answering each axis with a pair that is an axis again gives the shape of the answers. -/
theorem mapAxes_apply {s : Shape} (valid : s.Valid) (f : Axis → Axis) (run : Run) :
    s.mapAxes (fun _ axis => .ok (.tuple [.int (f axis).dimension, .tag (f axis).tag])) run
      = ofParts (s.axes.map fun axis => (.int (f axis).dimension, .tag (f axis).tag))
          (run.handed s.axes) := by
  rw [mapAxes_def, bind_of_ok (eachAxis_handed valid
    (g := fun _ axis => (.int (f axis).dimension, .tag (f axis).tag)) ?_ run)]
  · rw [← List.zipIdx_map_fst 0 s.axes, List.map_map, List.zipIdx_map_fst]
    rfl
  · intro call axis run
    rw [remake, bind_of_ok (handOver_apply axis rfl run), splitPair_of_pass call rfl]
    rfl

end Shape
end TensorShape

import TensorShape.Proofs.Evaluation
import TensorShape.Source.Supply

/-! # Going through a value item by item

Whatever a value is, going through it is drawing from its source until there is
nothing left (`eachItem_eq_drain`), although a value that holds its items is not drawn
from.  `Source.Gives` says which items a source has given so far and what is left.
Since an item given is an item used up, the number of steps that `drain` allows itself
is always enough (`Gives.held_add_total`).

What is done with the items may move cursors too.  So `Eval.Reaches` records how far a
pass has come together with what has been done on the way, and a bound on the steps that
is good in the beginning stays good if nothing is put back into a cursor (`Draw.Spares`).
A cursor over items of its own is the plain case: it gives them and ends
(`Eval.eachItem_own_cursor`). -/
namespace TensorShape

/-- Drawing from a source gives some items one after the other, and leaves a source and the
cursors as they are then. -/
inductive Source.Gives : Source → List Source → List Value → Source → List Source → Prop
  | nil {source cursors} : Gives source cursors [] source cursors
  | cons {source cursors item rest between items last after} :
    Draw.next source cursors = (.ok (some (item, rest)), between) →
    Gives rest between items last after → Gives source cursors (item :: items) last after

namespace Source.Gives

variable {source last : Source} {cursors after : List Source} {items : List Value}

/-- What has been given is missing from what is held. -/
theorem held_add_total (given : Gives source cursors items last after) :
    last.held + Draw.total after + items.length ≤ source.held + Draw.total cursors := by
  induction given with
  | nil => simp
  | cons drawn _ ih =>
    have := Draw.held_next drawn
    simp only [List.length_cons]
    omega

end Source.Gives

/-- A source gives items of some sort for as long as it can, and then either ends, gives something
else or breaks off. -/
theorem Source.exists_gives {α : Type} (e : α → Value) (source : Source) (cursors : List Source) :
    ∃ (l : List α) (rest : Source) (between after : List Source),
      source.Gives cursors (l.map e) rest between ∧
      (Draw.next rest between = (.ok none, after) ∨
        (∃ item left, Draw.next rest between = (.ok (some (item, left)), after) ∧
          ∀ a, item ≠ e a) ∨
        ∃ fault, Draw.next rest between = (.error fault, after)) := by
  match drawn : Draw.next source cursors with
  | (.ok none, after) => exact ⟨[], source, cursors, after, .nil, .inl drawn⟩
  | (.error fault, after) => exact ⟨[], source, cursors, after, .nil, .inr (.inr ⟨fault, drawn⟩)⟩
  | (.ok (some (item, left)), after) =>
    by_cases sort : ∃ a, item = e a
    · obtain ⟨a, rfl⟩ := sort
      -- an item given is an item used up, which is why the search ends
      have := Draw.held_next drawn
      obtain ⟨l, rest, between, last, given, ended⟩ := exists_gives e left after
      exact ⟨a :: l, rest, between, last, .cons drawn given, ended⟩
    · exact ⟨[], source, cursors, after, .nil,
        .inr (.inl ⟨item, left, drawn, fun a same => sort ⟨a, same⟩⟩)⟩
termination_by source.held + Draw.total cursors

namespace Eval

variable {β : Type}

theorem drain_apply (f : Nat → Value → Eval β) (bound position : Nat) (source : Source)
    (run : Run) :
    drain f (bound + 1) position source run = match Draw.next source run.cursors with
      | (.ok none, after) => (.ok [], { run with cursors := after })
      | (.ok (some (item, rest)), after) =>
        (do
          let b ← f position item
          return b :: (← drain f bound (position + 1) rest) : Eval (List β))
            { run with cursors := after }
      | (.error fault, after) => (.error (.fault fault), { run with cursors := after }) := by
  rw [drain, bind_apply, ofDraw_apply]
  match Draw.next source run.cursors with
  | (.ok none, _) => rfl
  | (.ok (some _), _) => rfl
  | (.error _, _) => rfl

theorem next_own (pass : Pass) (cursors : List Source) :
    Draw.next (.own pass) cursors
      = (pass.next?.map (Option.map fun step => (step.1, .own step.2)), cursors) := by
  obtain ⟨items, fault⟩ := pass
  match items, fault with
  | _ :: _, _ => rfl
  | [], none => rfl
  | [], some _ => rfl

/-- Items that nobody else can draw need not be drawn. -/
theorem drain_own (f : Nat → Value → Eval β) (fault : Option Fault) (items : List Value)
    (position : Nat) {bound : Nat} (enough : items.length < bound) (run : Run) :
    drain f bound position (.own ⟨items, fault⟩) run
      = (do
          let results ← traverse f position items
          finish fault
          return results : Eval (List β)) run := by
  obtain ⟨bound, rfl⟩ := Nat.exists_eq_succ_of_ne_zero (Nat.ne_of_gt (Nat.zero_lt_of_lt enough))
  induction items generalizing position bound run with
  | nil =>
    rw [drain_apply, next_own]
    cases fault <;> rfl
  | cons item rest ih =>
    obtain ⟨bound, rfl⟩ := Nat.exists_eq_succ_of_ne_zero
      (Nat.ne_of_gt (Nat.zero_lt_of_lt (Nat.lt_of_succ_lt_succ enough)))
    rw [drain_apply, next_own]
    -- drawing an own item changes no cursor, so both sides go on from the same state
    change (f position item >>= _) run = _
    simp only [traverse, bind_assoc, pure_bind]
    rw [bind_apply, bind_apply]
    match f position item run with
    | (.error _, _) => rfl
    | (.ok b, between) =>
      change ((drain f (bound + 1) (position + 1) (.own ⟨rest, fault⟩)) >>= _) between = _
      rw [bind_apply, ih (position + 1) between bound (Nat.lt_of_succ_lt_succ enough)]
      simp only [bind_apply]
      match traverse f (position + 1) rest between with
      | (.error _, _) => rfl
      | (.ok _, _) => cases fault <;> rfl

theorem source_of_pass {v : Value} {pass : Pass} (h : v.pass? = some pass) :
    v.source = .ok (.own pass) := by
  cases v <;> first | cases h; rfl | cases h

/-- Going through a value is drawing from its source for as long as it gives something. -/
theorem eachItem_eq_drain (f : Nat → Value → Eval β) {v : Value} {source : Source}
    (h : v.source = .ok source) (run : Run) :
    eachItem f v run = drain f (source.held + Draw.total run.cursors + 1) 0 source run := by
  unfold eachItem
  match held : v.pass? with
  | some pass =>
    cases h.symm.trans (source_of_pass held)
    refine (drain_own f pass.fault pass.items 0 ?_ run).symm
    change pass.items.length < pass.items.length + _ + 1
    omega
  | none =>
    rw [h]
    rfl

/-- What has no source cannot be gone through. -/
theorem eachItem_of_source_error (f : Nat → Value → Eval β) {v : Value} {fault : Fault}
    (h : v.source = .error fault) : eachItem f v = throw (.fault fault) := by
  unfold eachItem
  match held : v.pass? with
  | some pass => cases h.symm.trans (source_of_pass held)
  | none =>
    rw [h]
    rfl

theorem source_of_not_iterable {v : Value} (h : v.isIterable = false) :
    v.source = .error (.notIterable v.typeName) := by
  cases v <;> first | rfl | cases h

/-! ## How far a pass has come -/

/-- Dealing with the items of a source one by one gives some results, and comes to a source and a
state in which the next item can be drawn. -/
inductive Reaches (f : Nat → Value → Eval β) :
    Nat → Source → Run → List β → Source → Run → Prop
  | nil {position source run} : Reaches f position source run [] source run
  | cons {position source run item rest cursors b between bs last after} :
    Draw.next source run.cursors = (.ok (some (item, rest)), cursors) →
    f position item { run with cursors } = (.ok b, between) →
    Reaches f (position + 1) rest between bs last after →
    Reaches f position source run (b :: bs) last after

section Reached

variable {f : Nat → Value → Eval β} {source rest : Source} {run between : Run} {bs : List β}

/-- After the items that have been dealt with the pass goes on where it stands. -/
theorem Reaches.drain {position : Nat} (h : Reaches f position source run bs rest between)
    (bound : Nat) : Eval.drain f (bound + bs.length) position source run
      = ((Eval.drain f bound (position + bs.length) rest between).1.map (bs ++ ·),
        (Eval.drain f bound (position + bs.length) rest between).2) := by
  induction h with
  | @nil position source run =>
    show Eval.drain f bound position source run = _
    rcases Eval.drain f bound position source run with ⟨_ | _, _⟩
    · rfl
    · rfl
  | @cons position _ _ _ _ _ b _ bs last after drawn done _ ih =>
    rw [List.length_cons, ← Nat.add_assoc, drain_apply, drawn]
    simp only
    rw [bind_of_ok done, bind_apply, ih, Nat.add_assoc, Nat.add_comm 1]
    rcases Eval.drain f bound (position + (bs.length + 1)) last after with ⟨_ | _, _⟩
    · rfl
    · rfl

/-- A pass over a value ends as the rest of it does, if no more items have been dealt with than
there are. -/
theorem Reaches.eachItem {v : Value} (h : Reaches f 0 source run bs rest between)
    (found : v.source = .ok source) (enough : bs.length ≤ source.held + Draw.total run.cursors)
    {result : Except Failure (List β)} {last : Run}
    (ended : ∀ bound, Eval.drain f (bound + 1) bs.length rest between = (result, last)) :
    Eval.eachItem f v run = (result.map (bs ++ ·), last) := by
  obtain ⟨spare, exact⟩ := Nat.exists_eq_add_of_le enough
  rw [eachItem_eq_drain f found run, exact,
    show bs.length + spare + 1 = spare + 1 + bs.length by omega, h.drain, Nat.zero_add, ended]

/-- Items of one sort are dealt with one after the other, if dealing with one of them moves no
cursor. -/
theorem reaches_of_gives {α : Type} {e : α → Value} {g : α → β}
    (quiet : ∀ position a, f position (e a) = pure (g a)) {cursors after : List Source} {l : List α}
    (given : source.Gives cursors (l.map e) rest after) (run : Run) (position : Nat) :
    Reaches f position source { run with cursors } (l.map g) rest
      { run with cursors := after } := by
  induction l generalizing source cursors position with
  | nil =>
    cases given
    exact .nil
  | cons a l ih =>
    cases given with
    | @cons _ _ _ _ drawing _ _ _ drawn given =>
      have done : f position (e a) { run with cursors := drawing } = _ :=
        congrFun (quiet position a) _
      exact .cons drawn done (ih given (position + 1))

/-- A pass over a value whose first items are of one sort comes to where these end. -/
theorem eachItem_of_gives {α : Type} {e : α → Value} {g : α → β}
    (quiet : ∀ position a, f position (e a) = pure (g a)) {v : Value}
    (found : v.source = .ok source) {after : List Source} {l : List α}
    (given : source.Gives run.cursors (l.map e) rest after)
    (result : Except Failure (List β)) {last : Run}
    (ended : ∀ bound position, Eval.drain f (bound + 1) position rest { run with cursors := after }
      = (result, last)) : Eval.eachItem f v run = (result.map (l.map g ++ ·), last) := by
  -- the items given are among those held, so `eachItem` allows for at least one step more
  have among := given.held_add_total
  rw [List.length_map] at among
  have enough : (l.map g).length ≤ source.held + Draw.total run.cursors := by
    rw [List.length_map]
    exact Nat.le_trans (Nat.le_add_left _ _) among
  exact (reaches_of_gives quiet given run 0).eachItem found enough fun bound => ended bound _

end Reached

end Eval

/-! ## What the cursors hold -/

namespace Draw

/-- The work adds nothing to what the cursors hold, whatever comes of it. -/
def Spares (work : Draw α) : Prop :=
  ∀ n, Ensures (fun cursors => total cursors ≤ n) work fun _ => True

theorem Spares.total_le {work : Draw α} (h : Spares work) (cursors : List Source) :
    total (work cursors).2 ≤ total cursors := (h (total cursors) cursors (Nat.le_refl _)).1

theorem spares_of_total_le {work : Draw α}
    (h : ∀ cursors, total (work cursors).2 ≤ total cursors) : Spares work :=
  fun _ cursors kept => ⟨Nat.le_trans (h cursors) kept, fun _ _ => trivial⟩

variable {advance : Nat → Draw (Option Value)}

theorem spares_nextWith (spares : ∀ place, Spares (advance place)) (source : Source) :
    Spares (source.nextWith advance) := by
  intro n
  induction source with
  | own pass => exact (Ensures.lift fun _ _ => trivial).bind fun _ _ => .pure trivial
  | shared place => exact (spares place n).bind fun _ _ => .pure trivial
  | zip first second ihFirst ihSecond =>
    refine ihFirst.bind fun step _ => ?_
    cases step with
    | none =>
      refine ihSecond.bind fun step _ => ?_
      cases step with
      | none => exact .pure trivial
      | some _ => exact .throw _
    | some step =>
      refine ihSecond.bind fun step' _ => ?_
      cases step' with
      | none => exact .throw _
      | some _ => exact .pure trivial

/-- A cursor gets back no more than what was left of its source. -/
theorem spares_advanceWithin (depth place : Nat) : Spares (advanceWithin depth place) := by
  induction depth generalizing place with
  | zero => exact fun n => .pure trivial
  | succ depth ih =>
    refine spares_of_total_le fun cursors => ?_
    have emptied := total_set cursors place .ended
    have drawn := (spares_nextWith ih (cursors.getD place .ended)).total_le
      (cursors.set place .ended)
    have nothing : Source.ended.held = 0 := rfl
    change total (((cursors.getD place .ended).nextWith (advanceWithin depth) >>= _)
      (cursors.set place .ended)).2 ≤ _
    rw [bind_apply]
    match step : (cursors.getD place .ended).nextWith (advanceWithin depth)
        (cursors.set place .ended) with
    | (.error _, between) =>
      rw [step] at drawn
      have drawn : total between ≤ _ := drawn
      show total between ≤ total cursors
      omega
    | (.ok none, between) =>
      rw [step] at drawn
      have drawn : total between ≤ _ := drawn
      show total between ≤ total cursors
      omega
    | (.ok (some (item, rest)), between) =>
      have lost := held_nextWith (usesUp_advanceWithin depth) step
      have put := total_set between place rest
      show total (between.set place rest) ≤ total cursors
      omega

theorem spares_next (source : Source) : Spares (next source) :=
  spares_nextWith (fun place n => Ensures.get.bind fun _ _ => spares_advanceWithin _ place n) source

end Draw

/-- Unpacking a value adds nothing to what the cursors hold. -/
theorem Value.spares_pair? (v : Value) : Draw.Spares v.pair? := by
  intro n
  refine Ensures.tryCatch ?_ fun _ => .pure trivial
  refine (Ensures.lift fun _ _ => trivial).bind fun source _ => ?_
  refine (Draw.spares_next source n).bind fun step _ => ?_
  cases step with
  | none => exact .pure trivial
  | some step =>
    refine (Draw.spares_next step.2 n).bind fun step' _ => ?_
    cases step' with
    | none => exact .pure trivial
    | some step' =>
      refine (Draw.spares_next step'.2 n).bind fun step'' _ => ?_
      cases step'' with
      | none => exact .pure trivial
      | some _ => exact .pure trivial

/-! ## Cursors over items of their own -/

namespace Draw

variable {place : Nat} {cursors : List Source} {fault : Option Fault} {item : Value}
  {rest : List Value}

theorem advance_apply {source : Source} (h : cursors[place]? = some source) :
    advance place cursors = match source.nextWith (advanceWithin (cursors.length - 1))
        (cursors.set place .ended) with
      | (.ok (some (item, rest)), between) => (.ok (some item), between.set place rest)
      | (.ok none, between) => (.ok none, between)
      | (.error fault, between) => (.error fault, between) := by
  have within : place < cursors.length := (List.getElem?_eq_some_iff.mp h).1
  obtain ⟨depth, same⟩ := Nat.exists_eq_succ_of_ne_zero (Nat.ne_of_gt (Nat.zero_lt_of_lt within))
  have held : cursors.getD place .ended = source := by
    rw [List.getD_eq_getElem?_getD, h, Option.getD_some]
  change advanceWithin cursors.length place cursors = _
  rw [same]
  change ((cursors.getD place .ended).nextWith (advanceWithin depth) >>= _)
    (cursors.set place .ended) = _
  rw [held, bind_apply]
  simp only [Nat.add_one_sub_one]
  match source.nextWith (advanceWithin depth) (cursors.set place .ended) with
  | (.ok none, _) => rfl
  | (.ok (some _), _) => rfl
  | (.error _, _) => rfl

/-- A cursor over items of its own gives the first of them, and goes on after it. -/
theorem advance_own_cons (h : cursors[place]? = some (.own ⟨item :: rest, fault⟩)) :
    advance place cursors = (.ok (some item), cursors.set place (.own ⟨rest, fault⟩)) := by
  rw [advance_apply h]
  show ((.ok (some item) : Except Fault (Option Value)),
    (cursors.set place .ended).set place (.own ⟨rest, fault⟩)) = _
  rw [List.set_set]

theorem advance_ended (h : cursors[place]? = some .ended) :
    advance place cursors = (.ok none, cursors) := by
  rw [advance_apply h]
  show ((.ok none : Except Fault (Option Value)), cursors.set place .ended) = _
  obtain ⟨within, same⟩ := List.getElem?_eq_some_iff.mp h
  rw [← same, List.set_getElem_self]

theorem next_shared_of_some {after : List Source}
    (h : advance place cursors = (.ok (some item), after)) :
    next (.shared place) cursors = (.ok (some (item, .shared place)), after) := bind_of_ok h _

theorem next_shared_of_none {after : List Source}
    (h : advance place cursors = (.ok none, after)) :
    next (.shared place) cursors = (.ok none, after) := bind_of_ok h _

end Draw

namespace Eval

variable {α β : Type} {place : Nat} {run : Run} {l : List α} {e : α → Value} {g : α → β}
  {f : Nat → Value → Eval β}

/-- Drawing from a cursor over items of its own gives all of them, and leaves the cursor at its
end, if what is done with them moves no cursor. -/
theorem drain_own_cursor (quiet : ∀ position a, f position (e a) = pure (g a))
    (held : run.cursors[place]? = some (.own (.ofList (l.map e)))) {bound : Nat}
    (enough : l.length < bound) (position : Nat) :
    drain f bound position (.shared place) run
      = (.ok (l.map g), { run with cursors := run.cursors.set place .ended }) := by
  obtain ⟨bound, rfl⟩ := Nat.exists_eq_succ_of_ne_zero (Nat.ne_of_gt (Nat.zero_lt_of_lt enough))
  induction l generalizing bound position run with
  | nil =>
    obtain ⟨within, same⟩ := List.getElem?_eq_some_iff.mp held
    have stays : run.cursors.set place .ended = run.cursors := by
      have ended : run.cursors[place] = .ended := same
      rw [← ended, List.set_getElem_self]
    rw [drain_apply, Draw.next_shared_of_none (Draw.advance_ended held), stays]
    rfl
  | cons a rest ih =>
    obtain ⟨bound, rfl⟩ := Nat.exists_eq_succ_of_ne_zero
      (Nat.ne_of_gt (Nat.zero_lt_of_lt (Nat.lt_of_succ_lt_succ enough)))
    have drawn := Draw.advance_own_cons held
    have within : place < run.cursors.length := (List.getElem?_eq_some_iff.mp held).1
    let between : Run := { run with cursors := run.cursors.set place (.own ⟨rest.map e, none⟩) }
    have left : between.cursors[place]? = some (.own (.ofList (rest.map e))) :=
      List.getElem?_set_self within
    have gone := ih left (position + 1) bound (Nat.lt_of_succ_lt_succ enough)
    rw [drain_apply, Draw.next_shared_of_some drawn]
    simp only [quiet, pure_bind]
    rw [bind_of_ok gone, List.set_set]
    rfl

/-- `drain_own_cursor`, for going through the cursor as a value. -/
theorem eachItem_own_cursor (quiet : ∀ position a, f position (e a) = pure (g a))
    (held : run.cursors[place]? = some (.own (.ofList (l.map e)))) (kind : CursorKind) :
    eachItem f (.cursor kind place) run
      = (.ok (l.map g), { run with cursors := run.cursors.set place .ended }) := by
  rw [eachItem_eq_drain f rfl]
  refine drain_own_cursor quiet held ?_ 0
  -- the items are among those that the cursors hold
  have among := Draw.total_set run.cursors place .ended
  rw [List.getD_eq_getElem?_getD, held] at among
  have among : _ + (l.map e).length ≤ _ + 0 := among
  rw [List.length_map] at among
  show l.length < 0 + Draw.total run.cursors + 1
  omega

end Eval
end TensorShape

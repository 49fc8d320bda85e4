import TensorShape.Proofs.Passes
import TensorShape.Proofs.ViewsInPrint

/-! # Views over any two sequences

A view pairs the items of two values, and nothing compares their lengths beforehand.  Each pass
over it gives the pairs for as long as there are items on both sides, and then, if only one side
has run out, breaks off with a fault and is at its end for good.  What a pass gives next depends on
how often it has been asked and on nothing that has been done with other passes (`ViewAt`).

To make a list of a view or to write it is to go through it once, so neither can be done with a
view of unequal sides.  The length of a view is that of its first side, whatever the second is. -/
namespace TensorShape

variable {first second v : Value} {xs ys : List Value} {place k : Nat}

/-! ## The pairs of a view -/

namespace Value

/-- The values that are the view over two values, whether or not it has been kept. -/
inductive Views (first second : Value) : Value → Prop
  | fresh : Views first second (viewOver first second)
  | kept {label} : Views first second ((viewOver first second).labelled label)

theorem isIterable_of_pass {pass : Pass} (h : v.pass? = some pass) : v.isIterable = true := by
  cases v with
  | cursor | liveView => rfl
  | _ => exact congrArg Option.isSome h

theorem viewOver_eq (hx : first.pass? = some (.ofList xs)) (hy : second.pass? = some (.ofList ys)) :
    viewOver first second
      = .view none (xs.zip ys) (Pass.unevenness xs.length ys.length) first.length := by
  have zipped : (Pass.ofList xs).zip (.ofList ys) = _ := Pass.pairs_eq rfl rfl xs ys
  rw [viewOver, isIterable_of_pass hx, isIterable_of_pass hy, hx, hy]
  simp only [Bool.not_true, Bool.false_eq_true, if_false, zipped]

/-- A view over two lists holds their pairs, however it has been kept. -/
theorem Views.eq (h : Views first second v) (hx : first.pass? = some (.ofList xs))
    (hy : second.pass? = some (.ofList ys)) : ∃ label, v
      = .view label (xs.zip ys) (Pass.unevenness xs.length ys.length) first.length := by
  cases h with
  | fresh => exact ⟨none, viewOver_eq hx hy⟩
  | @kept label =>
    rw [viewOver_eq hx hy]
    exact ⟨some label, rfl⟩

end Value

/-! ## Passes -/

/-- What a pass over a view has left when it has been asked `k` times. -/
def Pass.left (xs ys : List Value) (k : Nat) : Source :=
  if k ≤ min xs.length ys.length then
    .own ⟨((xs.zip ys).drop k).map fun p => .axisPair p.1 p.2, unevenness xs.length ys.length⟩
  else .ended

namespace Pass

theorem left_of_lt {x y : Value} (hx : xs[k]? = some x) (hy : ys[k]? = some y) : ∃ later,
    left xs ys k = .own ⟨.axisPair x y :: later, unevenness xs.length ys.length⟩ ∧
      left xs ys (k + 1) = .own ⟨later, unevenness xs.length ys.length⟩ := by
  have within : k < xs.length := (List.getElem?_eq_some_iff.mp hx).1
  have within' : k < ys.length := (List.getElem?_eq_some_iff.mp hy).1
  have there : (xs.zip ys)[k]? = some (x, y) := List.getElem?_zip_eq_some.mpr ⟨hx, hy⟩
  obtain ⟨below, same⟩ := List.getElem?_eq_some_iff.mp there
  refine ⟨((xs.zip ys).drop (k + 1)).map fun p => .axisPair p.1 p.2, ?_, ?_⟩
  · rw [left, if_pos (by omega), List.drop_eq_getElem_cons below, same]
    rfl
  · rw [left, if_pos (by omega)]

theorem left_of_eq (h : k = min xs.length ys.length) :
    left xs ys k = .own ⟨[], unevenness xs.length ys.length⟩ := by
  have none : (xs.zip ys).drop k = [] := List.drop_eq_nil_of_le (by rw [List.length_zip]; omega)
  rw [left, if_pos (by omega), none]
  rfl

theorem left_of_gt (h : min xs.length ys.length < k) : left xs ys k = .ended := if_neg (by omega)

end Pass

theorem Draw.advance_own_fault {cursors : List Source} {fault : Fault}
    (h : cursors[place]? = some (.own ⟨[], some fault⟩)) :
    advance place cursors = (.error fault, cursors.set place .ended) := by
  rw [advance_apply h]
  rfl

/-- **What a pass over a view comes to when it has been asked `k` times.** -/
structure Session.ViewAt (xs ys : List Value) (place k : Nat) (session : Session) : Prop where
  pair : ∀ {x y}, xs[k]? = some x → ys[k]? = some y →
    session.Answers place (.next (.cursor .pairs place)) (.ok (.value (.axisPair x y)))
  even : k = xs.length → k = ys.length →
    session.Answers place (.next (.cursor .pairs place)) (.ok .exhausted)
  shorter : k = ys.length → ys.length < xs.length →
    session.Answers place (.next (.cursor .pairs place)) (.error (.fault .secondShorter))
  longer : k = xs.length → xs.length < ys.length →
    session.Answers place (.next (.cursor .pairs place)) (.error (.fault .secondLonger))
  /-- A pass that has ended or broken off does not go on. -/
  past : min xs.length ys.length < k →
    session.Answers place (.next (.cursor .pairs place)) (.ok .exhausted)

/-- In some steps of a session a pass over a view is asked `k` times, and nothing else is done with
it. -/
inductive Session.Asks (place : Nat) : Session → List Step → Nat → Prop
  | nil {session : Session} : Asks place session [] 0
  | next {session : Session} {step : Step} {rest : List Step} {k : Nat} :
    step.operation session = .next (.cursor .pairs place) →
    Asks place (session.perform (step.operation session) step.keepAs).2 rest k →
    Asks place session (step :: rest) (k + 1)
  | other {session : Session} {step : Step} {rest : List Step} {k : Nat} :
    (step.operation session).Holds (Value.Avoids place) →
    Asks place (session.perform (step.operation session) step.keepAs).2 rest k →
    Asks place session (step :: rest) k

section Asked

variable {run : Run}

namespace Operation

/-- There are items on both sides, -/
theorem next_view_pair {x y : Value} (held : run.cursors[place]? = some (Pass.left xs ys k))
    (hx : xs[k]? = some x) (hy : ys[k]? = some y) : (next (.cursor .pairs place)).run run
      = (.ok (.value (.axisPair x y)),
        { run with cursors := run.cursors.set place (Pass.left xs ys (k + 1)) }) := by
  obtain ⟨later, now, then'⟩ := Pass.left_of_lt hx hy
  rw [now] at held
  rw [then']
  exact bind_of_ok (Eval.ofDraw_of_ok (Draw.advance_own_cons held)) _

/-- or one side has run out before the other, -/
theorem next_view_fault {fault : Fault} (held : run.cursors[place]? = some (Pass.left xs ys k))
    (reached : k = min xs.length ys.length)
    (uneven : Pass.unevenness xs.length ys.length = some fault) :
    (next (.cursor .pairs place)).run run = (.error (.fault fault),
      { run with cursors := run.cursors.set place (Pass.left xs ys (k + 1)) }) := by
  rw [Pass.left_of_eq reached, uneven] at held
  rw [Pass.left_of_gt (by omega)]
  exact bind_of_error (Eval.ofDraw_of_error (Draw.advance_own_fault held)) _

/-- or nothing is left. -/
theorem next_view_ended (held : run.cursors[place]? = some (Pass.left xs ys k))
    (ended : Pass.left xs ys k = .ended) :
    (next (.cursor .pairs place)).run run = (.ok .exhausted, run) := by
  rw [ended] at held
  exact bind_of_ok (Eval.ofDraw_of_ok (Draw.advance_ended held)) _

end Operation

/-- **What asking once leaves of a pass.** -/
theorem Apart.asked (h : Apart place (some (Pass.left xs ys k)) run.cursors) :
    Apart place (some (Pass.left xs ys (k + 1)))
      ((Operation.next (.cursor .pairs place)).run run).2.cursors := by
  -- a pass moves on while there are pairs, ends where a side has run out, and stays ended
  rcases Nat.lt_trichotomy k (min xs.length ys.length) with within | reached | past
  · have hx := List.getElem?_eq_getElem (l := xs) (show k < xs.length by omega)
    have hy := List.getElem?_eq_getElem (l := ys) (show k < ys.length by omega)
    rw [Operation.next_view_pair h.there hx hy]
    exact h.set_self _
  · match uneven : Pass.unevenness xs.length ys.length with
    | some fault =>
      rw [Operation.next_view_fault h.there reached uneven]
      exact h.set_self _
    | none =>
      have ended : Pass.left xs ys k = .ended := by
        rw [Pass.left_of_eq reached, uneven]
        rfl
      rw [Operation.next_view_ended h.there ended, Pass.left_of_gt (by omega), ← ended]
      exact h
  · have ended : Pass.left xs ys k = .ended := Pass.left_of_gt past
    rw [Operation.next_view_ended h.there ended, Pass.left_of_gt (by omega), ← ended]
    exact h

namespace Session

variable {session : Session}

/-- **What any number of steps leave of a pass.** -/
theorem Asks.apart {steps : List Step} {n : Nat} (asks : Asks place session steps n)
    (h : Apart place (some (Pass.left xs ys k)) session.cursors) :
    Apart place (some (Pass.left xs ys (k + n))) (session.performAll steps).2.cursors := by
  induction asks generalizing k with
  | nil => exact h
  | @next session step rest n asked _ ih =>
    rw [Nat.add_comm n 1, ← Nat.add_assoc]
    refine ih ?_
    rw [cursors_perform, asked]
    exact h.asked
  | other avoids _ ih =>
    refine ih ?_
    rw [cursors_perform]
    exact Operation.apart_run avoids h

theorem viewAt_of_apart (h : Apart place (some (Pass.left xs ys k)) session.cursors) :
    ViewAt xs ys place k session := by
  have others (rest : Source) (other : Nat) (away : other ≠ place) :
      (session.cursors.set place rest)[other]? = session.cursors[other]? :=
    List.getElem?_set_ne away.symm
  have there : session.start.cursors[place]? = _ := h.there
  refine ⟨fun hx hy => ?_, fun hx hy => ?_, fun reached less => ?_, fun reached less => ?_,
    fun past => ?_⟩
  · exact answers_of_run (Operation.next_view_pair there hx hy) (others _)
  · have ended : Pass.left xs ys k = .ended := by
      rw [Pass.left_of_eq (by omega), Pass.unevenness_eq_none_iff.mpr (by omega)]
      rfl
    exact answers_of_run (Operation.next_view_ended there ended) fun _ _ => rfl
  · have uneven : Pass.unevenness xs.length ys.length = some .secondShorter := if_pos less
    exact answers_of_run (Operation.next_view_fault there (by omega) uneven) (others _)
  · have uneven : Pass.unevenness xs.length ys.length = some .secondLonger := by
      rw [Pass.unevenness, if_neg (by omega), if_pos less]
    exact answers_of_run (Operation.next_view_fault there (by omega) uneven) (others _)
  · exact answers_of_run (Operation.next_view_ended there (Pass.left_of_gt past)) fun _ _ => rfl

end Session

end Asked

/-! ## Going through a view, and its length -/

namespace Value

/-- A list of a view is made by going through it up to the fault that it breaks off with. -/
theorem items_view (label : Option Nat) (pairs : List (Value × Value)) (fault : Option Fault)
    (length : Except Fault Nat) : Eval.items (.view label pairs fault length) = do
      Eval.finish fault
      return pairs.map fun p => .axisPair p.1 p.2 := by
  rw [Eval.items, Eval.eachItem_of_pass rfl,
    Eval.traverse_eq_pure (f := fun _ item => pure item) (g := id) fun _ _ => rfl, pure_bind,
    List.map_id]

section Items

variable {label : Option Nat} {length : Except Fault Nat} {run : Run}

theorem items_even (same : xs.length = ys.length) :
    Eval.items (.view label (xs.zip ys) (Pass.unevenness xs.length ys.length) length)
      = pure ((xs.zip ys).map fun p => .axisPair p.1 p.2) := by
  rw [items_view, Pass.unevenness_eq_none_iff.mpr same]
  rfl

theorem items_uneven {fault : Fault} (uneven : Pass.unevenness xs.length ys.length = some fault) :
    Eval.items (.view label (xs.zip ys) (Pass.unevenness xs.length ys.length) length)
      = throw (.fault fault) := by
  rw [items_view, uneven]
  rfl

theorem items_ok_iff : (∃ items after, Eval.items
    (.view label (xs.zip ys) (Pass.unevenness xs.length ys.length) length) run
      = (.ok items, after)) ↔ xs.length = ys.length := by
  constructor
  · rintro ⟨items, after, done⟩
    match uneven : Pass.unevenness xs.length ys.length with
    | none => exact Pass.unevenness_eq_none_iff.mp uneven
    | some fault => cases (congrFun (items_uneven uneven) run).symm.trans done
  · exact fun same => ⟨_, run, congrFun (items_even same) run⟩

end Items

/-- A view that has come about by pairing two values, or any value that is no view.  Other views
could have any length. -/
inductive Counted : Value → Prop
  | noView {v : Value} : (∀ label pairs fault length, v ≠ .view label pairs fault length) →
    Counted v
  | view {first second : Value} : Counted first → Counted (viewOver first second)
  | labelled {v : Value} {label : Nat} : Counted v → Counted (v.labelled label)

theorem length_labelled (v : Value) (label : Nat) : (v.labelled label).length = v.length := by
  unfold labelled
  split
  · rfl
  · rfl
  · rfl

theorem pairs_ended {p q : Pass} (h : (Pass.zip.pairs p q xs ys).2 = none) :
    p.fault = none ∧ (Pass.zip.pairs p q xs ys).1.length = xs.length := by
  induction xs generalizing ys with
  | nil =>
    cases ys with
    | nil => exact ⟨(Option.or_eq_none_iff.mp h).1, rfl⟩
    | cons => cases h
  | cons x xs ih =>
    cases ys with
    | nil => cases h
    | cons y ys =>
      obtain ⟨ended, same⟩ := ih h
      exact ⟨ended, congrArg (· + 1) same⟩

/-- A view is as long as its first side says, whatever the second. -/
theorem length_viewOver (first second : Value) :
    (viewOver first second).length = first.length := by
  unfold viewOver
  split
  · rfl
  · split
    · rfl
    · split
      · rfl
      · rfl

/-- A view that ends well has as many pairs as its first side has items, which ends well too. -/
theorem pass?_viewOver_ended (h : (viewOver first second).pass? = some (.ofList xs)) :
    ∃ items, first.pass? = some (.ofList items) ∧ items.length = xs.length := by
  unfold viewOver at h
  split at h
  · cases h
  · split at h
    · cases h
    · split at h
      · rename_i p q hp hq
        have parts : (p.zip q).1.map (fun pair => Value.axisPair pair.1 pair.2) = xs ∧
            (p.zip q).2 = none := Pass.mk.inj (Option.some.inj h)
        obtain ⟨rfl, ended⟩ := parts
        obtain ⟨fine, same⟩ := pairs_ended ended
        refine ⟨p.items, ?_, ?_⟩
        · rw [hp, Pass.ofList, ← fine]
        · rw [List.length_map]
          exact same.symm
      · cases h

/-- The length of what ends well is the number of its items. -/
theorem Counted.length_eq {n : Nat} (h : Counted v) (held : v.pass? = some (.ofList xs))
    (known : v.length = .ok n) : n = xs.length := by
  induction h generalizing xs with
  | @noView v other =>
    cases v with
    | view => exact absurd rfl (other _ _ _ _)
    | text t =>
      cases held
      cases known
      rw [List.length_map, String.length_toList]
    | dict | mapping | bytes | shape =>
      cases held
      cases known
      exact (List.length_map _).symm
    | list | tuple | axisPair =>
      cases held
      cases known
      rfl
    | _ => cases held <;> cases known
  | @view first second _ ih =>
    obtain ⟨items, held', same⟩ := pass?_viewOver_ended held
    rw [length_viewOver] at known
    exact (ih held' known).trans same
  | @labelled v label _ ih =>
    rw [pass?_labelled] at held
    rw [length_labelled] at known
    exact ih held known

end Value

/-! ## Together -/

/-- What can be done with a view `v` whose first side gives `xs` and whose second side gives
`ys`. -/
structure LooseView (first v : Value) (xs ys : List Value) : Prop where
  /-- A pass is opened anew at any time, and goes on as if there were no others. -/
  passes : ∀ (logging : Logging) {earlier : List Session.Step} (keepAs : Option String),
    (∀ step ∈ earlier, step.Candid) →
    let before := ((Session.fresh logging).performAll earlier).2
    let opened := before.perform (.cursor v) keepAs
    opened.1.result = .ok (.value (.cursor .pairs before.cursors.length)) ∧
      ∀ later k, opened.2.Asks before.cursors.length later k →
        (opened.2.performAll later).2.ViewAt xs ys before.cursors.length k
  listed : xs.length = ys.length →
    Eval.items v = pure ((xs.zip ys).map fun p => .axisPair p.1 p.2)
  unlisted : ∀ {fault}, Pass.unevenness xs.length ys.length = some fault →
    Eval.items v = throw (.fault fault)
  listed_iff : ∀ run, (∃ items after, Eval.items v run = (.ok items, after)) ↔
    xs.length = ys.length
  length : v.length = first.length
  counted : ∀ {n items run after}, first.Counted → v.length = .ok n →
    Eval.items v run = (.ok items, after) → items.length = n
  written : ∀ {cursors after forms names}, xs.length = ys.length →
    xs.mapM (Value.inView (Draw.total cursors)) cursors = (.ok forms, after) →
    Value.Named ys names → v.write cursors
      = (.ok (viewInPrint (List.zipWith (fun x name => Sequence.inRound [x, name]) forms names)),
        after)
  written_iff : ∀ {cursors after}, (∃ form, v.write cursors = (.ok form, after)) ↔
    xs.length = ys.length ∧ (∀ y ∈ ys, y.isMember = true) ∧
      ∃ forms, xs.mapM (Value.inView (Draw.total cursors)) cursors = (.ok forms, after)
  /-- What stands in the way first comes out: a second place without a name, -/
  nameless : ∀ {before y later cursors forms after}, ys = before ++ y :: later →
    before.length < xs.length → (∀ y ∈ before, y.isMember = true) → y.isMember = false →
    (xs.take (before.length + 1)).mapM (Value.inView (Draw.total cursors)) cursors
      = (.ok forms, after) →
    v.write cursors = (.error (.noFeature y.typeName "name"), after)
  /-- a first place that cannot be written, -/
  unshown : ∀ {before x later cursors forms between fault after}, xs = before ++ x :: later →
    before.length < ys.length → (∀ y ∈ ys.take before.length, y.isMember = true) →
    before.mapM (Value.inView (Draw.total cursors)) cursors = (.ok forms, between) →
    x.inView (Draw.total cursors) between = (.error fault, after) →
    v.write cursors = (.error fault, after)
  /-- or last of all that one side has run out. -/
  uneven : ∀ {fault cursors forms after}, Pass.unevenness xs.length ys.length = some fault →
    (xs.take (min xs.length ys.length)).mapM (Value.inView (Draw.total cursors)) cursors
      = (.ok forms, after) →
    (∀ y ∈ ys.take (min xs.length ys.length), y.isMember = true) →
    v.write cursors = (.error fault, after)

/-- **A view over any two sequences** goes as far as both do. -/
theorem Value.Views.looseView (h : Views first second v) (hx : first.pass? = some (.ofList xs))
    (hy : second.pass? = some (.ofList ys)) : LooseView first v xs ys := by
  obtain ⟨label, rfl⟩ := h.eq hx hy
  exact {
    passes logging {earlier} keepAs candid := by
      intro before opened
      have held : (Value.view label (xs.zip ys) (Pass.unevenness xs.length ys.length)
          first.length).pass? = some _ := rfl
      obtain ⟨given, apart⟩ := Session.apart_opened logging candid held keepAs
      have start : Pass.left xs ys 0 = .own ⟨(xs.zip ys).map fun p => .axisPair p.1 p.2,
          Pass.unevenness xs.length ys.length⟩ := if_pos (Nat.zero_le _)
      refine ⟨given, fun later k asks => ?_⟩
      have reached := asks.apart (start ▸ apart)
      rw [Nat.zero_add] at reached
      exact Session.viewAt_of_apart reached
    listed := items_even
    unlisted := items_uneven
    listed_iff _ := items_ok_iff
    length := rfl
    counted {n items run after} counted known done := by
      have same := items_ok_iff.mp ⟨items, after, done⟩
      cases (congrFun (items_even same) run).symm.trans done
      rw [counted.length_eq hx known, List.length_map, List.length_zip, ← same, Nat.min_self]
    written := write_even
    written_iff := write_ok_iff
    nameless split within members nameless shown := by
      subst split
      exact write_nameless within members nameless shown _
    unshown split within members shown failed := by
      subst split
      exact write_unshown within members shown failed _
    uneven := write_uneven }

/-- A second side that is shorter is found out by going through the view, unless a letter in it is
found out first in writing. -/
theorem Value.Views.looseView_letter :
    let first := Value.tuple [.int 2, .int 3]
    let second := Value.generated [.plain "N"]
    let v := Value.viewOver first second
    LooseView first v [.int 2, .int 3] [.plain "N"] ∧ v.length = .ok 2 ∧
      Eval.items v = throw (.fault .secondShorter) ∧
      v.write [] = (.error (.noFeature "str" "name"), []) := by
  intro first second v
  have loose : LooseView first v [.int 2, .int 3] [.plain "N"] := Views.fresh.looseView rfl rfl
  have shown : [Value.int 2].mapM (Value.inView 0) [] = (.ok ["2"], []) := rfl
  exact ⟨loose, loose.length, loose.unlisted rfl,
    loose.nameless (List.nil_append _).symm (by decide) nofun rfl shown⟩

end TensorShape

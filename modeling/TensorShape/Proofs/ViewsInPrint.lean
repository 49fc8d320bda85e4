import TensorShape.Proofs.Printability

/-! # Writing a view pair by pair

A view is written in one pass over it.  Of each pair the first place has to be written and the
second to have a name, and the cursors are as the pairs before have left them, so writing the pairs
is `mapM` (`writePairs_eq_mapM`).  What stands in the way first comes out: a first place that cannot
be written (`write_unshown`), a second place without a name (`write_nameless`), and only after the
last pair that one side has run out (`write_uneven`). -/
namespace TensorShape.Value

open List (Forall₂)

variable {xs ys : List Value} {supply : Nat} {cursors between after : List Source}
  {forms names : List String} {fault : Fault}

/-- A first place as it stands in a view in print. -/
def inView (supply : Nat) (x : Value) : Draw String :=
  displayedAs (writeWith (fun source => viewInPrint <$> writeDrawn (supply + 1) source) x) x

/-- A pair as it stands in a view in print. -/
def pairInView (supply : Nat) (p : Value × Value) : Draw String := do
  let x ← inView supply p.1
  let name ← memberName p.2
  return Sequence.inRound [x, name]

theorem writePairs_eq_mapM (supply : Nat) (pairs : List (Value × Value)) :
    writePairs (fun source => viewInPrint <$> writeDrawn (supply + 1) source) pairs
      = pairs.mapM (pairInView supply) := by
  induction pairs with
  | nil => rfl
  | cons p rest ih =>
    rw [List.mapM_cons, ← ih]
    rfl

/-- To write a view is to write its pairs one by one, and then to meet the fault that it breaks off
with. -/
theorem write_view (label : Option Nat) (pairs : List (Value × Value)) (ending : Option Fault)
    (length : Except Fault Nat) (cursors : List Source) :
    (view label pairs ending length).write cursors = (do
      let parts ← pairs.mapM (pairInView (Draw.total cursors))
      ending.elim (pure (viewInPrint parts)) throw : Draw String) cursors := by
  rw [write, bind_of_ok (Draw.supply_run cursors), writeWith, writePairs_eq_mapM]
  cases ending with
  | none => rfl
  | some fault => rfl

theorem mapM_of_error {α β : Type} {f : α → Draw β} {first later : List α} {a : α} {bs : List β}
    (done : first.mapM f cursors = (.ok bs, between))
    (failed : f a between = (.error fault, after)) :
    (first ++ a :: later).mapM f cursors = (.error fault, after) := by
  rw [List.mapM_append, bind_of_ok done, List.mapM_cons, bind_of_error]
  exact bind_of_error failed _

theorem mapM_of_append {α β : Type} {f : α → Draw β} {first : List α} {a : α} {bs : List β}
    (done : (first ++ [a]).mapM f cursors = (.ok bs, after)) :
    ∃ bs' between b, first.mapM f cursors = (.ok bs', between) ∧ f a between = (.ok b, after) := by
  rw [List.mapM_append] at done
  obtain ⟨bs', between, ahead, done⟩ := bind_eq_ok_iff.mp done
  obtain ⟨_, last, alone, done⟩ := bind_eq_ok_iff.mp done
  obtain ⟨b, reached, there, alone⟩ := bind_eq_ok_iff.mp alone
  cases done
  cases alone
  exact ⟨bs', between, b, ahead, there⟩

/-- All of some values have names. -/
abbrev Named (ys : List Value) (names : List String) : Prop :=
  Forall₂ (fun y name => y.memberName = .ok name) ys names

theorem exists_named (members : ∀ y ∈ ys, y.isMember = true) : ∃ names, Named ys names := by
  induction ys with
  | nil => exact ⟨[], .nil⟩
  | cons y ys ih =>
    obtain ⟨first, others⟩ := List.forall_mem_cons.mp members
    obtain ⟨name, named⟩ := memberName_of_isMember first
    obtain ⟨names, rest⟩ := ih others
    exact ⟨name :: names, .cons named rest⟩

theorem isMember_of_memberName {y : Value} {name : String} (h : y.memberName = .ok name) :
    y.isMember = true := by
  by_contra nameless
  cases h.symm.trans (memberName_of_not_isMember (Bool.eq_false_iff.mpr nameless))

/-- Pairs are written if their first places can be and their second places have names. -/
theorem mapM_pairInView (same : xs.length = ys.length)
    (shown : xs.mapM (inView supply) cursors = (.ok forms, after)) (named : Named ys names) :
    (xs.zip ys).mapM (pairInView supply) cursors
      = (.ok (List.zipWith (fun x name => Sequence.inRound [x, name]) forms names), after) := by
  induction named generalizing xs cursors forms with
  | nil =>
    obtain rfl := List.length_eq_zero_iff.mp same
    cases shown
    rfl
  | @cons y name ys names first _ ih =>
    obtain ⟨x, xs, rfl⟩ := List.exists_cons_of_length_eq_add_one same
    rw [List.mapM_cons] at shown
    obtain ⟨form, between, there, shown⟩ := bind_eq_ok_iff.mp shown
    obtain ⟨others, last, rest, shown⟩ := bind_eq_ok_iff.mp shown
    cases shown
    have pair : pairInView supply (x, y) cursors
        = (.ok (Sequence.inRound [form, name]), between) := by
      rw [pairInView, bind_of_ok there, first]
      rfl
    rw [List.zip_cons_cons, List.mapM_cons, bind_of_ok pair,
      bind_of_ok (ih (Nat.succ.inj same) rest)]
    rfl

theorem of_mapM_pairInView {parts : List String} (same : xs.length = ys.length)
    (done : (xs.zip ys).mapM (pairInView supply) cursors = (.ok parts, after)) :
    (∃ forms, xs.mapM (inView supply) cursors = (.ok forms, after)) ∧
      ∀ y ∈ ys, y.isMember = true := by
  induction xs generalizing ys cursors parts with
  | nil =>
    obtain rfl := List.length_eq_zero_iff.mp same.symm
    cases done
    exact ⟨⟨[], rfl⟩, nofun⟩
  | cons x xs ih =>
    obtain ⟨y, ys, rfl⟩ := List.exists_cons_of_length_eq_add_one same.symm
    rw [List.zip_cons_cons, List.mapM_cons] at done
    obtain ⟨part, between, pair, done⟩ := bind_eq_ok_iff.mp done
    obtain ⟨others, last, rest, done⟩ := bind_eq_ok_iff.mp done
    cases done
    obtain ⟨form, reached, there, pair⟩ := bind_eq_ok_iff.mp pair
    obtain ⟨name, last, named, pair⟩ := bind_eq_ok_iff.mp pair
    cases pair
    obtain ⟨⟨forms, shown⟩, members⟩ := ih (Nat.succ.inj same) rest
    match found : y.memberName with
    | .error fault =>
      rw [found] at named
      cases named
    | .ok _ =>
      rw [found] at named
      cases named
      have member := isMember_of_memberName found
      refine ⟨⟨form :: forms, ?_⟩, List.forall_mem_cons.mpr ⟨member, members⟩⟩
      rw [List.mapM_cons, bind_of_ok there, bind_of_ok shown]
      rfl

variable {label : Option Nat} {length : Except Fault Nat} {x y : Value} {before later : List Value}

/-- What stops the writing of a pair comes out, whatever comes after it. -/
theorem write_of_error {xs' ys' : List Value} {ending : Option Fault}
    (same : before.length = ys'.length) (shown : before.mapM (inView (Draw.total cursors)) cursors
      = (.ok forms, between)) (members : ∀ y ∈ ys', y.isMember = true)
    (failed : pairInView (Draw.total cursors) (x, y) between = (.error fault, after)) :
    (view label ((before ++ x :: xs').zip (ys' ++ y :: later)) ending length).write cursors
      = (.error fault, after) := by
  obtain ⟨names, named⟩ := exists_named members
  rw [write_view, List.zip_append same, List.zip_cons_cons]
  exact bind_of_error (mapM_of_error (mapM_pairInView same shown named) failed) _

/-- A second place without a name stops the writing, however the lengths compare. -/
theorem write_nameless (within : before.length < xs.length)
    (members : ∀ y ∈ before, y.isMember = true) (nameless : y.isMember = false)
    (shown : (xs.take (before.length + 1)).mapM (inView (Draw.total cursors)) cursors
      = (.ok forms, after)) (ending : Option Fault) :
    (view label (xs.zip (before ++ y :: later)) ending length).write cursors
      = (.error (.noFeature y.typeName "name"), after) := by
  rw [List.take_succ_eq_append_getElem within] at shown
  obtain ⟨_, between, form, ahead, there⟩ := mapM_of_append shown
  have whole : xs.take before.length ++ xs[before.length] :: xs.drop (before.length + 1) = xs := by
    rw [← List.drop_eq_getElem_cons within, List.take_append_drop]
  have pair : pairInView (Draw.total cursors) (xs[before.length], y) between
      = (.error (.noFeature y.typeName "name"), after) := by
    rw [pairInView, bind_of_ok there, memberName_of_not_isMember nameless]
    rfl
  rw [← whole]
  exact write_of_error (List.length_take_of_le (Nat.le_of_lt within)) ahead members pair

/-- A first place that cannot be written does so too. -/
theorem write_unshown (within : before.length < ys.length)
    (members : ∀ y ∈ ys.take before.length, y.isMember = true)
    (shown : before.mapM (inView (Draw.total cursors)) cursors = (.ok forms, between))
    (failed : inView (Draw.total cursors) x between = (.error fault, after))
    (ending : Option Fault) :
    (view label ((before ++ x :: later).zip ys) ending length).write cursors
      = (.error fault, after) := by
  have whole : ys.take before.length ++ ys[before.length] :: ys.drop (before.length + 1) = ys := by
    rw [← List.drop_eq_getElem_cons within, List.take_append_drop]
  rw [← whole]
  exact write_of_error (List.length_take_of_le (Nat.le_of_lt within)).symm shown members
    (bind_of_error failed _)

/-- If nothing stops the writing of the pairs, the view breaks off after them, -/
theorem write_uneven (uneven : Pass.unevenness xs.length ys.length = some fault)
    (shown : (xs.take (min xs.length ys.length)).mapM (inView (Draw.total cursors)) cursors
      = (.ok forms, after))
    (members : ∀ y ∈ ys.take (min xs.length ys.length), y.isMember = true) :
    (view label (xs.zip ys) (Pass.unevenness xs.length ys.length) length).write cursors
      = (.error fault, after) := by
  obtain ⟨names, named⟩ := exists_named members
  have same : (xs.take (min xs.length ys.length)).length
      = (ys.take (min xs.length ys.length)).length := by
    rw [List.length_take, List.length_take]
    omega
  rw [write_view, uneven, List.zip_eq_zip_take_min, bind_of_ok (mapM_pairInView same shown named)]
  rfl

/-- or is written. -/
theorem write_even (same : xs.length = ys.length)
    (shown : xs.mapM (inView (Draw.total cursors)) cursors = (.ok forms, after))
    (named : Named ys names) :
    (view label (xs.zip ys) (Pass.unevenness xs.length ys.length) length).write cursors
      = (.ok (viewInPrint (List.zipWith (fun x name => Sequence.inRound [x, name]) forms names)),
        after) := by
  rw [write_view, Pass.unevenness_eq_none_iff.mpr same,
    bind_of_ok (mapM_pairInView same shown named)]
  rfl

theorem write_ok_iff :
    (∃ form, (view label (xs.zip ys) (Pass.unevenness xs.length ys.length) length).write cursors
      = (.ok form, after)) ↔ xs.length = ys.length ∧ (∀ y ∈ ys, y.isMember = true) ∧
        ∃ forms, xs.mapM (inView (Draw.total cursors)) cursors = (.ok forms, after) := by
  constructor
  · rintro ⟨form, written⟩
    rw [write_view] at written
    obtain ⟨parts, between, done, written⟩ := bind_eq_ok_iff.mp written
    match uneven : Pass.unevenness xs.length ys.length with
    | some _ =>
      rw [uneven] at written
      cases written
    | none =>
      rw [uneven] at written
      cases written
      have same := Pass.unevenness_eq_none_iff.mp uneven
      obtain ⟨shown, members⟩ := of_mapM_pairInView same done
      exact ⟨same, members, shown⟩
  · rintro ⟨same, members, forms, shown⟩
    obtain ⟨names, named⟩ := exists_named members
    exact ⟨_, write_even same shown named⟩

end TensorShape.Value

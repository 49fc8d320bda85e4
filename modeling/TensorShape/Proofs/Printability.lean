import TensorShape.Proofs.Interchange

/-! # Which values can be written

Three things get in the way of writing a value: a view that breaks off, one with a second place that
has no name, and an integer of too many digits.  A value that holds no live view is written alike
wherever the cursors stand, and it can be written just if none of these is met in writing it
(`writable_iff`).  Live views are left out because what they give depends on where the cursors
stand, and writing one uses its cursors up.

`Settled` says of a computation that its result does not depend on the cursors, and when it
succeeds.  It is carried through the steps of writing, whatever way to write live views these are
given. -/
namespace TensorShape

variable {α β ι : Type}

/-! ## Work that the cursors do not matter for -/

/-- Some work leaves the cursors alone, has one result wherever they stand and whatever else it is
given, and succeeds under a certain condition. -/
def Draw.Settled (work : ι → Draw α) (succeeds : Prop) : Prop :=
  ∃ result : Except Fault α, (∀ given cursors, work given cursors = (result, cursors)) ∧
    ((∃ a, result = .ok a) ↔ succeeds)

namespace Draw.Settled

variable {work : ι → Draw α} {P Q : Prop}

theorem pure (a : α) : Settled (fun _ : ι => Pure.pure a) True :=
  ⟨.ok a, fun _ _ => rfl, iff_of_true ⟨a, rfl⟩ trivial⟩

theorem throw (fault : Fault) : Settled (fun _ : ι => (throw fault : Draw α)) False :=
  ⟨.error fault, fun _ _ => rfl, iff_of_false nofun id⟩

/-- Two steps succeed if both do. -/
theorem bind {next : ι → α → Draw β} (first : Settled work P)
    (second : ∀ a, Settled (fun given => next given a) Q) :
    Settled (fun given => work given >>= next given) (P ∧ Q) := by
  obtain ⟨result, done, succeeds⟩ := first
  match result with
  | .error fault =>
    refine ⟨.error fault, fun given cursors => bind_of_error (done given cursors) _, ?_⟩
    exact iff_of_false nofun fun both => nomatch succeeds.mpr both.1
  | .ok a =>
    obtain ⟨result', done', succeeds'⟩ := second a
    refine ⟨result', fun given cursors => ?_, ?_⟩
    · exact (bind_of_ok (done given cursors) _).trans (done' given cursors)
    · rw [succeeds', and_iff_right (succeeds.mp ⟨a, rfl⟩)]

theorem of_iff (h : Settled work P) (same : P ↔ Q) : Settled work Q := propext same ▸ h

/-- What is done with a result at the end does not matter. -/
theorem map {f : α → β} (h : Settled work P) :
    Settled (fun given => work given >>= fun a => Pure.pure (f a)) P :=
  (h.bind fun a => .pure (f a)).of_iff (iff_of_eq (and_true P))

end Draw.Settled

/-! ## The parts that are met -/

namespace Value

/-- Whether a value has the name of a tag or a code. -/
def isMember : Value → Bool
  | text t => t.memberName?.isSome
  | _ => false

theorem isMember_iff {v : Value} :
    v.isMember = true ↔ (∃ tag, v = .tag tag) ∨ ∃ code, v = .text (.code code) := by
  constructor
  · intro h
    match v, h with
    | text (.tag tag), _ => exact .inl ⟨tag, rfl⟩
    | text (.code code), _ => exact .inr ⟨code, rfl⟩
  · rintro (⟨tag, rfl⟩ | ⟨code, rfl⟩)
    · rfl
    · rfl

/-- Tags and codes have names. -/
theorem memberName_of_isMember {v : Value} (h : v.isMember = true) :
    ∃ name, v.memberName = .ok name := by
  rcases isMember_iff.mp h with ⟨tag, rfl⟩ | ⟨code, rfl⟩
  · exact ⟨tag.name, rfl⟩
  · exact ⟨code.name, rfl⟩

theorem memberName_of_not_isMember {v : Value} (h : v.isMember = false) :
    v.memberName = .error (.noFeature v.typeName "name") := by
  match v, h with
  | text (.plain _), _ => rfl
  | absent, _ | bool _, _ | int _, _ | float _, _ | list _, _ | tuple _, _ | dict _, _ => rfl
  | bytes _, _ | shape _, _ | axisPair _ _, _ | index _ _ _, _ | iterable _ _ _, _ => rfl
  | mapping _ _ _, _ | tensor _ _, _ | featureless _, _ | view _ _ _ _, _ => rfl
  | liveView _ _ _, _ | cursor _ _, _ => rfl

mutual

/-- Whether all views, integers and shapes have a property that are met in writing a value. -/
def partsAll (P : Value → Bool) : Value → Bool
  | v@(int _) => P v
  | v@(shape _) => P v
  | list items => partsAllIn P items
  | tuple items => partsAllIn P items
  | dict entries => partsAllEntries P entries
  | axisPair x t => partsAll P x && partsAll P t
  | v@(view _ pairs _ _) => P v && partsAllFirsts P pairs
  | v@(liveView _ _ _) => P v
  | _ => true

/-- `partsAll`, for all of some values. -/
def partsAllIn (P : Value → Bool) : List Value → Bool
  | [] => true
  | v :: rest => partsAll P v && partsAllIn P rest

/-- `partsAll`, for all of some keys and their values. -/
def partsAllEntries (P : Value → Bool) : List (Value × Value) → Bool
  | [] => true
  | (key, value) :: rest => partsAll P key && partsAll P value && partsAllEntries P rest

/-- `partsAll`, for the first places of some pairs; of a second place only the name is written. -/
def partsAllFirsts (P : Value → Bool) : List (Value × Value) → Bool
  | [] => true
  | (x, _) :: rest => partsAll P x && partsAllFirsts P rest

end

/-- Whether a view holds its pairs. -/
def isStill : Value → Bool
  | liveView _ _ _ => false
  | _ => true

/-- Whether an integer or the dimensions of a shape are not too long, or a view holds its pairs,
does not break off after them, and has a name in each second place. -/
def isPrintable : Value → Bool
  | int n => Decimal.fits n
  | shape s => s.dimensions.all Decimal.fits
  | view _ pairs fault _ => fault.isNone && pairs.all fun p => p.2.isMember
  | liveView _ _ _ => false
  | _ => true

/-! ## Writing them -/

/-- The way in which live views are written. -/
abbrev LivePrinter := Source → Draw String

/-- Whether integers can be shown hangs on nothing else. -/
theorem settled_showing {integers : List Int} {a : β} {P : Prop}
    (h : Decimal.Fit integers ↔ P) :
    Draw.Settled (fun _ : LivePrinter => (liftM (Fault.showing integers a) : Draw β)) P := by
  by_cases fit : Decimal.Fit integers
  · rw [Fault.showing_of_fit fit]
    exact (Draw.Settled.pure a).of_iff (iff_of_true trivial (h.mp fit))
  · rw [Fault.showing_of_not_fit fit]
    exact (Draw.Settled.throw _).of_iff (iff_of_false id (mt h.mpr fit))

theorem settled_int (n : Int) (text : String) :
    Draw.Settled (fun _ : LivePrinter => (liftM (Fault.showing [n] text) : Draw String))
      ((int n).partsAll isPrintable = true) :=
  settled_showing List.forall_mem_singleton

theorem settled_shape (s : Shape) (text : String) :
    Draw.Settled (fun _ : LivePrinter => (liftM (Fault.showing s.dimensions text) : Draw String))
      ((shape s).partsAll isPrintable = true) :=
  settled_showing List.all_eq_true.symm

theorem settled_displayedAs {x : Value}
    (h : Draw.Settled (fun live : LivePrinter => writeWith live x)
      (x.partsAll isPrintable = true)) :
    Draw.Settled (fun live : LivePrinter => displayedAs (writeWith live x) x)
      (x.partsAll isPrintable = true) := by
  cases x with
  | text t => exact (Draw.Settled.pure _).of_iff (iff_of_true trivial rfl)
  | shape s => exact settled_shape s s.display
  | _ => exact h

theorem settled_memberName (t : Value) :
    Draw.Settled (fun _ : LivePrinter => (liftM t.memberName : Draw String))
      (t.isMember = true) := by
  match member : t.isMember with
  | true =>
    obtain ⟨name, named⟩ := memberName_of_isMember member
    rw [named]
    exact (Draw.Settled.pure name).of_iff (iff_of_true trivial rfl)
  | false =>
    rw [memberName_of_not_isMember member]
    exact (Draw.Settled.throw _).of_iff (iff_of_false id nofun)

/-- A pair can be written if its first place can and its second has a name. -/
theorem settled_pairInPrint {x : Value} (t : Value)
    (h : Draw.Settled (fun live : LivePrinter => writeWith live x)
      (x.partsAll isPrintable = true)) :
    Draw.Settled (fun live : LivePrinter => pairInPrint (writeWith live x) x t)
      (x.partsAll isPrintable = true ∧ t.isMember = true) :=
  (settled_displayedAs h).bind fun _ => (settled_memberName t).map

mutual

/-- A value that holds no live view is written alike everywhere, or nowhere. -/
theorem settled_writeWith : ∀ v : Value, v.partsAll isStill = true →
    Draw.Settled (fun live : LivePrinter => writeWith live v) (v.partsAll isPrintable = true)
  | .list items, h => (settled_writeItems items h).map
  | .tuple items, h => (settled_writeItems items h).map
  | .dict entries, h => (settled_writeEntries entries h).map
  | .axisPair x t, h => by
    obtain ⟨first, second⟩ := Bool.and_eq_true_iff.mp h
    refine ((settled_writeWith x first).bind fun _ => (settled_writeWith t second).map).of_iff ?_
    exact Bool.and_eq_true_iff.symm
  | .view _ pairs fault _, h => by
    have firsts := settled_writePairs pairs (Bool.and_eq_true_iff.mp h).2
    cases fault with
    | none =>
      refine firsts.map.of_iff ?_
      simp [partsAll, isPrintable, and_comm]
    | some fault =>
      refine (firsts.bind fun _ => .throw fault).of_iff ?_
      simp [partsAll, isPrintable]
  | .liveView _ _ _, h => nomatch h
  | .absent, _ => (Draw.Settled.pure _).of_iff (iff_of_true trivial rfl)
  | .bool _, _ => (Draw.Settled.pure _).of_iff (iff_of_true trivial rfl)
  | .int n, _ => settled_int n (toString n)
  | .float _, _ => (Draw.Settled.pure _).of_iff (iff_of_true trivial rfl)
  | .text _, _ => (Draw.Settled.pure _).of_iff (iff_of_true trivial rfl)
  | .bytes _, _ => (Draw.Settled.pure _).of_iff (iff_of_true trivial rfl)
  | .shape s, _ => settled_shape s s.written
  | .index _ _ _, _ => (Draw.Settled.pure _).of_iff (iff_of_true trivial rfl)
  | .iterable _ _ _, _ => (Draw.Settled.pure _).of_iff (iff_of_true trivial rfl)
  | .mapping _ _ _, _ => (Draw.Settled.pure _).of_iff (iff_of_true trivial rfl)
  | .tensor _ _, _ => (Draw.Settled.pure _).of_iff (iff_of_true trivial rfl)
  | .featureless _, _ => (Draw.Settled.pure _).of_iff (iff_of_true trivial rfl)
  | .cursor _ _, _ => (Draw.Settled.pure _).of_iff (iff_of_true trivial rfl)

theorem settled_writeItems : ∀ items : List Value, partsAllIn isStill items = true →
    Draw.Settled (fun live : LivePrinter => writeItems live items)
      (partsAllIn isPrintable items = true)
  | [], _ => (Draw.Settled.pure _).of_iff (iff_of_true trivial rfl)
  | v :: rest, h => by
    obtain ⟨first, others⟩ := Bool.and_eq_true_iff.mp h
    refine ((settled_writeWith v first).bind fun _ =>
      (settled_writeItems rest others).map).of_iff ?_
    exact Bool.and_eq_true_iff.symm

theorem settled_writeEntries : ∀ entries : List (Value × Value),
    partsAllEntries isStill entries = true →
    Draw.Settled (fun live : LivePrinter => writeEntries live entries)
      (partsAllEntries isPrintable entries = true)
  | [], _ => (Draw.Settled.pure _).of_iff (iff_of_true trivial rfl)
  | (key, value) :: rest, h => by
    obtain ⟨both, others⟩ := Bool.and_eq_true_iff.mp h
    obtain ⟨first, second⟩ := Bool.and_eq_true_iff.mp both
    refine ((settled_writeWith key first).bind fun _ => (settled_writeWith value second).bind
      fun _ => (settled_writeEntries rest others).map).of_iff ?_
    simp [partsAllEntries, and_assoc]

theorem settled_writePairs : ∀ pairs : List (Value × Value), partsAllFirsts isStill pairs = true →
    Draw.Settled (fun live : LivePrinter => writePairs live pairs)
      (partsAllFirsts isPrintable pairs = true ∧ pairs.all (fun p => p.2.isMember) = true)
  | [], _ => (Draw.Settled.pure _).of_iff (iff_of_true trivial ⟨rfl, rfl⟩)
  | (x, t) :: rest, h => by
    obtain ⟨first, others⟩ := Bool.and_eq_true_iff.mp h
    refine ((settled_pairInPrint t (settled_writeWith x first)).bind fun _ =>
      (settled_writePairs rest others).map).of_iff ?_
    simp only [partsAllFirsts, List.all_cons, Bool.and_eq_true]
    exact and_and_and_comm

end

variable {v : Value}

/-- Writing a value that holds no live view moves no cursor and comes to the same wherever the
cursors stand. -/
theorem settled_write (still : v.partsAll isStill = true) :
    Draw.Settled (fun _ : Unit => v.write) (v.partsAll isPrintable = true) := by
  obtain ⟨result, done, succeeds⟩ := settled_writeWith v still
  exact ⟨result, fun _ cursors => done _ cursors, succeeds⟩

/-- A value whose parts can be printed has one form wherever it is written. -/
theorem exists_write_eq_pure (still : v.partsAll isStill = true)
    (printable : v.partsAll isPrintable = true) : ∃ form, v.write = pure form := by
  obtain ⟨result, done, succeeds⟩ := settled_write still
  obtain ⟨form, rfl⟩ := succeeds.mpr printable
  exact ⟨form, funext fun cursors => done () cursors⟩

/-- **Of the values that hold no live view those can be written whose parts can be printed.** -/
theorem writable_iff (still : v.partsAll isStill = true) :
    v.Writable ↔ v.partsAll isPrintable = true := by
  constructor
  · intro writable
    obtain ⟨result, done, succeeds⟩ := settled_write still
    obtain ⟨form, after, written⟩ := writable []
    cases (done () []).symm.trans written
    exact succeeds.mp ⟨form, rfl⟩
  · intro printable
    obtain ⟨form, written⟩ := exists_write_eq_pure still printable
    exact writable_of_eq_pure written

end Value
end TensorShape

import TensorShape.Proofs.Drawing

/-! # Work that logs nothing

Most of what an operation does leaves the log alone, and nothing that it does changes what
becomes of records.  `Silent` work leaves the log alone whatever comes of it, and fails only
in ways that nobody logs; `QuietSuccess` is asked of work that logs its refusals, and says
that it logs nothing else.

Going through items stops at the first step that fails.  What had been done until then
is kept apart from that step (`drain_error`, `traverse_error`): it has succeeded, so if
its steps are quiet the log is still as it was when the failing step begins. -/
namespace TensorShape

variable {α β : Type}

/-- A failure that is not logged: everything but a refusal of what a shape was to be made of. -/
def Failure.Unlogged (failure : Failure) : Prop :=
  ∀ cause, failure = .rejected cause →
    cause.code = .indexOutOfRange ∨ ∃ typeName, cause = .notDimensions typeName

theorem Failure.Unlogged.fault (fault : Fault) : (Failure.fault fault).Unlogged := nofun

theorem Failure.Unlogged.misuse (misuse : Misuse) : (Failure.misuse misuse).Unlogged := nofun

theorem Failure.Unlogged.callback (text : String) : (Failure.callback text).Unlogged := nofun

/-- Two runs with the same log, in which the same becomes of records. -/
structure Run.SameLog (run after : Run) : Prop where
  log : after.log = run.log
  logging : after.logging = run.logging

namespace Run.SameLog

variable {run between after : Run}

theorem refl : run.SameLog run := ⟨rfl, rfl⟩

theorem trans (first : run.SameLog between) (second : between.SameLog after) : run.SameLog after :=
  ⟨second.log.trans first.log, second.logging.trans first.logging⟩

/-- What is logged later on is logged in the same way. -/
theorem log_logged (h : run.SameLog after) (records : List LogRecord) :
    (after.logged records).log = (run.logged records).log := by
  by_cases off : run.logging = .off
  · rw [logged_of_off off, logged_of_off (h.logging.trans off), h.log]
  · rw [logged_of_ne_off off, logged_of_ne_off (h.logging ▸ off), h.log]

end Run.SameLog

/-! ## Going through items -/

namespace Eval

/-- Work that adds nothing to the log if it succeeds. -/
def QuietSuccess (work : Eval α) : Prop :=
  ∀ run a after, work run = (.ok a, after) → run.SameLog after

theorem QuietSuccess.pure (a : α) : QuietSuccess (pure a) := by
  intro run a' after h
  cases h
  exact .refl

theorem QuietSuccess.bind {work : Eval α} {next : α → Eval β} (first : QuietSuccess work)
    (second : ∀ a, QuietSuccess (next a)) : QuietSuccess (work >>= next) := by
  intro run b after h
  obtain ⟨a, between, done, rest⟩ := bind_eq_ok_iff.mp h
  exact (first run a between done).trans (second a between b after rest)

section Steps

variable {f : Nat → Value → Eval β} {g : Nat → α → Eval β} {bound position : Nat}
  {source last : Source} {run after : Run} {bs : List β} {failure : Failure}

/-- What `drain` gives is what it reaches. -/
theorem drain_ok (h : drain f bound position source run = (.ok bs, after)) :
    ∃ rest between, Reaches f position source run bs rest between ∧ between.SameLog after := by
  induction bound generalizing position source run bs with
  | zero =>
    cases h
    exact ⟨source, _, .nil, .refl⟩
  | succ bound ih =>
    rw [drain_apply] at h
    match drawn : Draw.next source run.cursors with
    | (.error fault, cursors) => rw [drawn] at h; cases h
    | (.ok none, cursors) =>
      rw [drawn] at h
      cases h
      exact ⟨source, run, .nil, ⟨rfl, rfl⟩⟩
    | (.ok (some (item, rest)), cursors) =>
      simp only [drawn] at h
      obtain ⟨b, between, done, h⟩ := bind_eq_ok_iff.mp h
      obtain ⟨bs, last, others, h⟩ := bind_eq_ok_iff.mp h
      cases h
      obtain ⟨rest, reached, reaches, same⟩ := ih others
      exact ⟨rest, reached, .cons drawn done reaches, same⟩

/-- What `eachItem` gives is what it reaches. -/
theorem eachItem_ok {v : Value} (found : v.source = .ok source)
    (h : eachItem f v run = (.ok bs, after)) :
    ∃ rest between, Reaches f 0 source run bs rest between ∧ between.SameLog after := by
  rw [eachItem_eq_drain f found] at h
  exact drain_ok h

theorem Reaches.sameLog (quiet : ∀ position item, QuietSuccess (f position item))
    (h : Reaches f position source run bs last after) : run.SameLog after := by
  induction h with
  | nil => exact .refl
  | cons _ done _ ih =>
    have same := quiet _ _ _ _ _ done
    exact Run.SameLog.trans ⟨same.log, same.logging⟩ ih

/-- Going through the items of a value with steps that add nothing adds nothing. -/
theorem QuietSuccess.eachItem (quiet : ∀ position item, QuietSuccess (f position item))
    (v : Value) : QuietSuccess (eachItem f v) := by
  intro run bs after done
  match found : v.source with
  | .error fault =>
    rw [eachItem_of_source_error _ found] at done
    cases done
  | .ok source =>
    obtain ⟨rest, between, reaches, same⟩ := eachItem_ok found done
    exact (reaches.sameLog quiet).trans same

end Steps

end Eval

/-! ## Silent work -/

namespace Eval

/-- Work that adds nothing to the log, and fails only in ways that are not logged. -/
def Silent (work : Eval α) : Prop := ∀ run, run.SameLog (work run).2 ∧
  ∀ failure, (work run).1 = .error failure → failure.Unlogged

namespace Silent

variable {work : Eval α}

theorem pure (a : α) : Silent (Pure.pure a) := fun _ => ⟨.refl, nofun⟩

theorem throw {failure : Failure} (h : failure.Unlogged) : Silent (throw failure : Eval α) :=
  fun _ => ⟨.refl, fun _ e => by cases e; exact h⟩

theorem bind {next : α → Eval β} (first : Silent work) (second : ∀ a, Silent (next a)) :
    Silent (work >>= next) := by
  intro run
  obtain ⟨same, unlogged⟩ := first run
  rw [bind_apply]
  match e : work run with
  | (.ok a, between) =>
    rw [e] at same
    exact ⟨same.trans (second a between).1, (second a between).2⟩
  | (.error failure, between) =>
    rw [e] at same unlogged
    exact ⟨same, fun _ e => by cases e; exact unlogged failure rfl⟩

theorem ofFault (result : Except Fault α) : Silent (ofFault result) := by
  match result with
  | .ok a => exact .pure a
  | .error fault => exact .throw (.fault fault)

theorem ofCallback (answer : Except String α) : Silent (ofCallback answer) := by
  match answer with
  | .ok a => exact .pure a
  | .error text => exact .throw (.callback text)

theorem ofDraw (work : Draw α) : Silent (ofDraw work) := by
  intro run
  rw [ofDraw_apply]
  refine ⟨⟨rfl, rfl⟩, fun failure e => ?_⟩
  match done : (work run.cursors).1 with
  | .ok a => rw [done] at e; cases e
  | .error fault => rw [done] at e; cases e; exact .fault fault

theorem noteCall (axis : Axis) : Silent (noteCall axis) := fun _ => ⟨⟨rfl, rfl⟩, nofun⟩

theorem finish (fault : Option Fault) : Silent (finish fault) := by
  match fault with
  | none => exact .pure ()
  | some fault => exact .throw (.fault fault)

theorem traverse {f : Nat → α → Eval β} (h : ∀ position a, Silent (f position a))
    (position : Nat) (l : List α) : Silent (traverse f position l) := by
  induction l generalizing position with
  | nil => exact .pure []
  | cons a rest ih => exact (h position a).bind fun b => (ih _).bind fun bs => .pure (b :: bs)

theorem drain {f : Nat → Value → Eval β} (h : ∀ position item, Silent (f position item))
    (bound position : Nat) (source : Source) : Silent (drain f bound position source) := by
  induction bound generalizing position source with
  | zero => exact .pure []
  | succ bound ih =>
    refine (ofDraw _).bind fun step => ?_
    match step with
    | none => exact .pure []
    | some (item, rest) =>
      exact (h position item).bind fun b => (ih _ rest).bind fun bs => .pure (b :: bs)

theorem eachItem {f : Nat → Value → Eval β} (h : ∀ position item, Silent (f position item))
    (v : Value) : Silent (eachItem f v) := by
  unfold Eval.eachItem
  split
  · exact (traverse h 0 _).bind fun bs => (finish _).bind fun _ => .pure bs
  · exact (ofFault _).bind fun source => (ofDraw _).bind fun supply => drain h _ 0 source

theorem items (v : Value) : Silent (items v) := eachItem (fun _ item => .pure item) v

/-- Silent work that succeeds adds nothing to the log. -/
theorem quietSuccess (h : Silent work) : QuietSuccess work := by
  intro run a after done
  have same := (h run).1
  rwa [done] at same

end Silent
end Eval

end TensorShape

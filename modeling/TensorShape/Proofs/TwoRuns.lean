import TensorShape.Proofs.Couplings
import TensorShape.Proofs.Revalidation

/-! # Two runs side by side

Two computations are `Alike` if, started in states that tell them nothing apart, they
come to such states again and either give related results or fail with the same
failure.  Only what callbacks have been handed may differ, since that is what differs
when the axes of the two sides do.

The relation is carried through the steps of a computation one by one, and through a
list by relating its elements pairwise.  What the two sides do is not looked at beyond
that, so the same rules serve for shapes that differ in their tags and for shapes that
differ in what is known of their dimensions. -/
namespace TensorShape

open List (Forall₂)

variable {α β γ δ : Type}

/-- Two states that differ at most in what callbacks have been handed. -/
structure Run.Alike (run run' : Run) : Prop where
  logging : run.logging = run'.logging
  cursors : run.cursors = run'.cursors
  log : run.log = run'.log

namespace Eval

/-- Two outcomes are related results or the same failure. -/
inductive Matched (R : α → β → Prop) : Except Failure α → Except Failure β → Prop
  | ok {a b} : R a b → Matched R (.ok a) (.ok b)
  | error {failure} : Matched R (.error failure) (.error failure)

/-- From states that are alike two computations go on to states that are alike, and give related
results or the same failure. -/
def Alike (R : α → β → Prop) (work : Eval α) (work' : Eval β) : Prop :=
  ∀ run run', Run.Alike run run' →
    Run.Alike (work run).2 (work' run').2 ∧ Matched R (work run).1 (work' run').1

variable {R : α → β → Prop} {S : γ → δ → Prop} {work : Eval α} {work' : Eval β}

theorem matched_iff {result : Except Failure α} {result' : Except Failure β} :
    Matched R result result' ↔ Corresponding Eq R result result' := by
  constructor
  · rintro (related | _)
    · exact .ok related
    · exact .error rfl
  · rintro (related | rfl)
    · exact .ok related
    · exact .error

/-- Being alike is being coupled in a way of its own. -/
theorem alike_iff : Alike R work work' ↔ TensorShape.Coupled Run.Alike Eq R work work' := by
  simp only [Alike, TensorShape.Coupled, matched_iff]

namespace Alike

theorem pure {a : α} {b : β} (h : R a b) : Alike R (Pure.pure a) (Pure.pure b) :=
  fun _ _ alike => ⟨alike, .ok h⟩

theorem throw (failure : Failure) : Alike R (throw failure) (throw failure) :=
  fun _ _ alike => ⟨alike, .error⟩

/-- Related results of the first steps are handed to the second ones. -/
theorem bind {next : α → Eval γ} {next' : β → Eval δ} (first : Alike R work work')
    (second : ∀ a b, R a b → Alike S (next a) (next' b)) :
    Alike S (work >>= next) (work' >>= next') :=
  alike_iff.mpr <| (alike_iff.mp first).bind fun a b related => alike_iff.mp (second a b related)

/-- Work that draws items sees no more of the state than the cursors. -/
theorem ofDraw (work : Draw α) : Alike Eq (ofDraw work) (ofDraw work) := by
  intro run run' alike
  rw [ofDraw_apply, ofDraw_apply, alike.cursors]
  refine ⟨⟨alike.logging, rfl, alike.log⟩, ?_⟩
  match (work run'.cursors).1 with
  | .ok a => exact .ok rfl
  | .error fault => exact .error

theorem ofFault (result : Except Fault α) : Alike Eq (ofFault result) (ofFault result) := by
  match result with
  | .ok a => exact .pure rfl
  | .error fault => exact .throw _

theorem ofCallback (answer : Except String α) :
    Alike Eq (ofCallback answer) (ofCallback answer) := by
  match answer with
  | .ok a => exact .pure rfl
  | .error text => exact .throw _

theorem ofExcept (result : Except Failure α) : Alike Eq (ofExcept result) (ofExcept result) := by
  match result with
  | .ok a => exact .pure rfl
  | .error failure => exact .throw _

theorem finish (fault : Option Fault) : Alike Eq (finish fault) (finish fault) := by
  match fault with
  | none => exact .pure rfl
  | some fault => exact .throw _

theorem report (channel : Channel) (compose : Draw String) :
    Alike (fun _ _ => True) (report channel compose) (report channel compose) := by
  refine alike_iff.mpr (.report (fun _ _ alike => alike.logging.symm) (alike_iff.mp (ofDraw _)) ?_)
  rintro message _ rfl
  exact .modify fun _ _ alike => ⟨alike.logging, alike.cursors, congrArg (· ++ _) alike.log⟩

/-- Failures are handled alike if the handlers are alike. -/
theorem tryCatch {handler : Failure → Eval α} {handler' : Failure → Eval β}
    (first : Alike R work work')
    (handled : ∀ failure, Alike R (handler failure) (handler' failure)) :
    Alike R (tryCatch work handler) (tryCatch work' handler') := by
  refine alike_iff.mpr ((alike_iff.mp first).tryCatch ?_)
  rintro failure _ rfl
  exact alike_iff.mp (handled failure)

/-- It does not matter which axes are handed to a callback. -/
theorem noteCall (axis axis' : Axis) : Alike Eq (noteCall axis) (noteCall axis') :=
  fun _ _ alike => ⟨⟨alike.logging, alike.cursors, alike.log⟩, .ok rfl⟩

/-- Going through related lists with related steps gives related lists. -/
theorem traverse {f : Nat → α → Eval γ} {g : Nat → β → Eval δ}
    (step : ∀ position a b, R a b → Alike S (f position a) (g position b)) (position : Nat)
    {l : List α} {l' : List β} (related : Forall₂ R l l') :
    Alike (Forall₂ S) (traverse f position l) (traverse g position l') :=
  alike_iff.mpr <| .traverse (fun position a b same => alike_iff.mp (step position a b same))
    position related

end Alike
end Eval

/-! ## Shapes -/

namespace Shape

open Eval (Alike)

variable {s t : Shape}

/-- Going through the axes of two valid shapes ends well on both sides. -/
theorem alike_eachAxis {R : Axis → Axis → Prop} {S : α → β → Prop} {f : Nat → Axis → Eval α}
    {g : Nat → Axis → Eval β} (hs : s.Valid) (ht : t.Valid) (related : Forall₂ R s.axes t.axes)
    (step : ∀ call axis axis', R axis axis' → Alike S (f call axis) (g call axis')) :
    Alike (Forall₂ S) (s.eachAxis f) (t.eachAxis g) := by
  rw [eachAxis, eachAxis, hs.unevenness, ht.unevenness]
  exact (Alike.traverse step 0 related).bind fun results results' same => .pure same

variable {R : Shape → Shape → Prop}

theorem alike_checked (hs : s.Valid) (ht : t.Valid) (related : R s t) :
    Alike R s.checked t.checked := by
  rw [checked_of_valid hs, checked_of_valid ht]
  exact .pure related

theorem alike_reportedForms (v : Value) : Alike Eq (reportedForms v) (reportedForms v) :=
  (Alike.ofDraw _).bind fun _ _ first => (Alike.ofDraw _).bind fun _ _ second =>
    .pure (Prod.ext first second)

/-- What an axis is handed over for does not depend on the axis. -/
theorem alike_handOver (axis axis' : Axis) (answer : Except String Value) :
    Alike Eq (handOver axis answer) (handOver axis' answer) :=
  (Alike.noteCall axis axis').bind fun _ _ _ => .ofCallback answer

/-- A bound is refused for what it is, and the refusal tells no more of the shape than its rank. -/
theorem alike_boundOf (ranks : s.rank = t.rank) (bound : Bound) (v : Value) :
    Alike Eq (s.boundOf bound v) (t.boundOf bound v) := by
  unfold boundOf
  rw [ranks]
  split
  · exact .pure rfl
  · refine (alike_reportedForms v).bind fun forms forms' same => ?_
    rw [same]
    exact .throw _

/-- What bounds shapes have hangs on the rank. -/
theorem counts_congr (ranks : s.rank = t.rank) (bound : Int) : s.Counts bound ↔ t.Counts bound := by
  rw [Counts, Counts, ranks]

theorem longBounds_congr (ranks : s.rank = t.rank) (first past : Int) :
    s.longBounds first past = t.longBounds first past := by
  simp only [longBounds, counts_congr ranks]

/-- Shapes of one rank are sliced alike if their segments are related. -/
theorem alike_slice (hs : s.Valid) (ht : t.Valid) (ranks : s.rank = t.rank)
    (segments : ∀ first past, R (s.segment first past) (t.segment first past))
    (first past : Value) : Alike R (s.slice first past) (t.slice first past) := by
  have ends : s.pastOr past = t.pastOr past := by
    cases past <;> simp only [pastOr, ranks]
  rw [slice, slice, ends]
  refine (alike_boundOf ranks .first first).bind fun b _ same => ?_
  subst same
  refine (alike_boundOf ranks .past _).bind fun e _ same => ?_
  subst same
  unfold between
  simp only [counts_congr ranks, longBounds_congr ranks, ranks]
  split
  · exact alike_checked (hs.segment _ _) (ht.segment _ _) (segments _ _)
  · exact .throw _

end Shape
end TensorShape

import Mathlib.Data.List.Forall2
import TensorShape.Proofs.Evaluation

/-! # Two computations side by side

Two computations are coupled if from related states they go on to related states, and give related
results or fail in related ways.  What the relations are is left open: that nothing differs but what
callbacks have been handed, or that one side does with plain values what the other does with what
stands for them.

A coupling is carried through the steps of a computation one by one (`Coupled.bind`,
`Coupled.tryCatch`), through a list element by element (`Coupled.traverse`) and through a report
(`Coupled.report`).  The steps are not looked at beyond that.  Two computations that are each
coupled with a third one are coupled with each other, as far as that one tells (`Coupled.join`). -/
namespace TensorShape

open List (Forall₂)

variable {ε σ α β γ δ : Type} (S : σ → σ → Prop) (F : ε → ε → Prop)

/-- Two outcomes are related results or related failures. -/
inductive Corresponding (R : α → β → Prop) : Except ε α → Except ε β → Prop
  | ok {a b} : R a b → Corresponding R (.ok a) (.ok b)
  | error {failure failure'} : F failure failure' →
    Corresponding R (.error failure) (.error failure')

/-- From related states two computations go on to related states, and give related results or fail
in related ways. -/
def Coupled (R : α → β → Prop) (work : ExceptT ε (StateM σ) α) (work' : ExceptT ε (StateM σ) β) :
    Prop :=
  ∀ state state', S state state' →
    S (work state).2 (work' state').2 ∧ Corresponding F R (work state).1 (work' state').1

variable {S F}

/-- What is done with related results is done with both or with neither. -/
theorem Corresponding.bind {R : α → β → Prop} {T : γ → δ → Prop} {result : Except ε α}
    {result' : Except ε β} {next : α → Except ε γ} {next' : β → Except ε δ}
    (h : Corresponding F R result result')
    (second : ∀ a b, R a b → Corresponding F T (next a) (next' b)) :
    Corresponding F T (result >>= next) (result' >>= next') := by
  cases h with
  | ok related => exact second _ _ related
  | error related => exact .error related

/-- Nothing but the same outcome corresponds to an outcome by equations. -/
theorem Corresponding.eq {result result' : Except ε α} (h : Corresponding Eq Eq result result') :
    result = result' := by
  cases h with
  | ok same => rw [same]
  | error same => rw [same]

theorem Corresponding.imp {F' : ε → ε → Prop} {R R' : α → β → Prop} {result : Except ε α}
    {result' : Except ε β} (h : Corresponding F R result result')
    (failed : ∀ failure failure', F failure failure' → F' failure failure')
    (given : ∀ a b, R a b → R' a b) : Corresponding F' R' result result' := by
  cases h with
  | ok related => exact .ok (given _ _ related)
  | error related => exact .error (failed _ _ related)

/-- What is known of the first result alone may be made part of the relation. -/
theorem Corresponding.ensuring {R : α → β → Prop} {Q : α → Prop} {result : Except ε α}
    {result' : Except ε β} (h : Corresponding F R result result')
    (known : ∀ a, result = .ok a → Q a) :
    Corresponding F (fun a b => R a b ∧ Q a) result result' := by
  cases h with
  | ok related => exact .ok ⟨related, known _ rfl⟩
  | error same => exact .error same

/-- Failures may be told in other words. -/
theorem Corresponding.mapError {ε' : Type} {F' : ε' → ε' → Prop} {f f' : ε → ε'} {R : α → β → Prop}
    {result : Except ε α} {result' : Except ε β} (h : Corresponding F R result result')
    (failed : ∀ failure failure', F failure failure' → F' (f failure) (f' failure')) :
    Corresponding F' R (result.mapError f) (result'.mapError f') := by
  cases h with
  | ok related => exact .ok related
  | error related => exact .error (failed _ _ related)

/-- Two outcomes that correspond to a third one correspond as far as that one tells. -/
theorem Corresponding.join {T : α → γ → Prop} {R : β → γ → Prop} {result : Except ε α}
    {result' : Except ε β} {common : Except ε γ} (h : Corresponding F T result common)
    (h' : Corresponding F R result' common) :
    Corresponding (fun failure failure' => ∃ last, F failure last ∧ F failure' last)
      (fun a b => ∃ c, T a c ∧ R b c) result result' := by
  cases h with
  | ok same =>
    cases h' with
    | ok same' => exact .ok ⟨_, same, same'⟩
  | error same =>
    cases h' with
    | error same' => exact .error ⟨_, same, same'⟩

namespace Coupled

variable {R : α → β → Prop} {T : γ → δ → Prop} {work : ExceptT ε (StateM σ) α}
  {work' : ExceptT ε (StateM σ) β}

theorem pure {a : α} {b : β} (h : R a b) : Coupled S F R (Pure.pure a) (Pure.pure b) :=
  fun _ _ related => ⟨related, .ok h⟩

theorem throw {failure failure' : ε} (h : F failure failure') :
    Coupled S F R (throw failure) (throw failure') :=
  fun _ _ related => ⟨related, .error h⟩

/-- Related states are read as related values. -/
theorem get : Coupled S F S (MonadState.get : ExceptT ε (StateM σ) σ) MonadState.get :=
  fun _ _ related => ⟨related, .ok related⟩

/-- Related states are changed into related states. -/
theorem modify {f f' : σ → σ} (h : ∀ state state', S state state' → S (f state) (f' state')) :
    Coupled S F (fun _ _ => True) (modify f : ExceptT ε (StateM σ) PUnit) (modify f') :=
  fun _ _ related => ⟨h _ _ related, .ok trivial⟩

/-- Results that are known beforehand and correspond touch neither state. -/
theorem lift {result : Except ε α} {result' : Except ε β} (h : Corresponding F R result result') :
    Coupled S F R (liftM result : ExceptT ε (StateM σ) α) (liftM result') := by
  cases h with
  | ok related => exact .pure related
  | error related => exact .throw related

/-- Related results of the first steps are handed to the second ones. -/
theorem bind {next : α → ExceptT ε (StateM σ) γ} {next' : β → ExceptT ε (StateM σ) δ}
    (first : Coupled S F R work work') (second : ∀ a b, R a b → Coupled S F T (next a) (next' b)) :
    Coupled S F T (work >>= next) (work' >>= next') := by
  intro state state' related
  obtain ⟨between, results⟩ := first state state' related
  rw [bind_apply, bind_apply]
  rcases done : work state with ⟨result, after⟩
  rcases done' : work' state' with ⟨result', after'⟩
  rw [done, done'] at between results
  cases results with
  | ok same => exact second _ _ same after after' between
  | error same => exact ⟨between, .error same⟩

theorem map {f : α → γ} {f' : β → δ} (h : Coupled S F R work work')
    (given : ∀ a b, R a b → T (f a) (f' b)) : Coupled S F T (f <$> work) (f' <$> work') := by
  rw [map_eq_pure_bind, map_eq_pure_bind]
  exact h.bind fun a b same => .pure (given a b same)

theorem imp {R' : α → β → Prop} (h : Coupled S F R work work') (given : ∀ a b, R a b → R' a b) :
    Coupled S F R' work work' := by
  intro state state' related
  obtain ⟨between, results⟩ := h state state' related
  exact ⟨between, results.imp (fun _ _ same => same) given⟩

/-- What is known of the first computation alone may be made part of the relations. -/
theorem ensuring {I : σ → Prop} {Q : α → Prop} (h : Coupled S F R work work')
    (known : Ensures I work Q) :
    Coupled (fun state state' => S state state' ∧ I state) F (fun a b => R a b ∧ Q a) work
      work' := by
  rintro state state' ⟨related, given⟩
  obtain ⟨between, results⟩ := h state state' related
  obtain ⟨kept, ensured⟩ := known state given
  exact ⟨⟨between, kept⟩, results.ensuring ensured⟩

/-- What two computations have in common with a third one they have in common. -/
theorem join {R' : β → γ → Prop} {T' : α → γ → Prop} {common : ExceptT ε (StateM σ) γ}
    (h : Coupled S F T' work common) (h' : Coupled S F R' work' common) {state state' between : σ}
    (related : S state between) (related' : S state' between) :
    (∃ last, S (work state).2 last ∧ S (work' state').2 last) ∧
      Corresponding (fun failure failure' => ∃ last, F failure last ∧ F failure' last)
        (fun a b => ∃ c, T' a c ∧ R' b c) (work state).1 (work' state').1 := by
  obtain ⟨states, results⟩ := h state between related
  obtain ⟨states', results'⟩ := h' state' between related'
  exact ⟨⟨_, states, states'⟩, results.join results'⟩

/-- Related failures are handed to the handlers, in related states. -/
theorem tryCatch {handler : ε → ExceptT ε (StateM σ) α} {handler' : ε → ExceptT ε (StateM σ) β}
    (h : Coupled S F R work work')
    (handled : ∀ failure failure', F failure failure' →
      Coupled S F R (handler failure) (handler' failure')) :
    Coupled S F R (tryCatch work handler) (tryCatch work' handler') := by
  intro state state' related
  obtain ⟨between, results⟩ := h state state' related
  rw [tryCatch_apply, tryCatch_apply]
  rcases done : work state with ⟨result, after⟩
  rcases done' : work' state' with ⟨result', after'⟩
  rw [done, done'] at between results
  cases results with
  | ok same => exact ⟨between, .ok same⟩
  | error same => exact handled _ _ same after after' between

/-- Going through related lists with coupled steps gives related lists. -/
theorem traverse {S : Run → Run → Prop} {F : Failure → Failure → Prop} {f : Nat → α → Eval γ}
    {f' : Nat → β → Eval δ}
    (step : ∀ position a b, R a b → Coupled S F T (f position a) (f' position b)) (position : Nat)
    {l : List α} {l' : List β} (related : Forall₂ R l l') :
    Coupled S F (Forall₂ T) (Eval.traverse f position l) (Eval.traverse f' position l') := by
  induction related generalizing position with
  | nil => exact .pure .nil
  | cons head _ ih =>
    refine (step position _ _ head).bind fun c d first => ?_
    exact (ih (position + 1)).bind fun cs ds rest => .pure (.cons first rest)

/-- Reports are coupled if composing them is, and adding what has been composed.  Whether they are
composed at all has to be the same on both sides. -/
theorem report {S : Run → Run → Prop} {F : Failure → Failure → Prop} {M : String → String → Prop}
    {channel : Channel} {compose compose' : Draw String}
    (logging : ∀ run run', S run run' → run'.logging = run.logging)
    (drawn : Coupled S F M (Eval.ofDraw compose) (Eval.ofDraw compose'))
    (recorded : ∀ message message', M message message' → Coupled S F (fun _ _ => True)
      (Eval.record channel message) (Eval.record channel message')) :
    Coupled S F (fun _ _ => True) (Eval.report channel compose)
      (Eval.report channel compose') := by
  have kept : Coupled S F (fun _ _ => True)
      (do Eval.record channel (← Eval.ofDraw compose) : Eval Unit)
      (do Eval.record channel (← Eval.ofDraw compose') : Eval Unit) := drawn.bind recorded
  intro run run' related
  have same := logging run run' related
  match mode : run.logging with
  | .off =>
    rw [Eval.report_of_off mode, Eval.report_of_off (same.trans mode)]
    exact ⟨related, .ok trivial⟩
  | .lenient =>
    rw [Eval.report_of_lenient mode, Eval.report_of_lenient (same.trans mode)]
    exact kept.tryCatch (fun _ _ _ => .pure trivial) run run' related
  | .strict =>
    rw [Eval.report_of_strict mode, Eval.report_of_strict (same.trans mode)]
    exact kept run run' related

end Coupled
end TensorShape

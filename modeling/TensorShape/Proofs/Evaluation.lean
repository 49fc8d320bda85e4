import TensorShape.Session

/-! # Reasoning about computations

Two ways to say what a computation does.  An equation with `pure` says that it gives
a result, and by what `pure` is also that it leaves no traces: no record, no call and
no cursor moved.  `Ensures` says what every state that a computation leaves and every
result that it gives have in common, and is carried through the steps of a
computation one by one.

`bind_apply` and `tryCatch_apply` say what two steps do in a given state.  What a report
does hangs on the logging: `report_pure` says it for a record that is known beforehand,
and the lemmas beside it for one that has yet to be composed. -/
namespace TensorShape

variable {ε σ α β : Type}

section Apply

variable (work : ExceptT ε (StateM σ) α) (state : σ)

/-- Two steps, the second of which is taken only if the first gives something. -/
theorem bind_apply (next : α → ExceptT ε (StateM σ) β) :
    (work >>= next) state = match work state with
      | (.ok a, between) => next a between
      | (.error failure, between) => (.error failure, between) := by
  change (ExceptT.bindCont next (work state).1 : StateM σ _) (work state).2 = _
  match work state with
  | (.ok _, _) => rfl
  | (.error _, _) => rfl

variable {work state} {between : σ}

/-- A first step that succeeds hands its result and its state to the second. -/
theorem bind_of_ok {a : α} (h : work state = (.ok a, between))
    (next : α → ExceptT ε (StateM σ) β) : (work >>= next) state = next a between := by
  rw [bind_apply, h]

theorem bind_of_error {failure : ε} (h : work state = (.error failure, between))
    (next : α → ExceptT ε (StateM σ) β) : (work >>= next) state = (.error failure, between) := by
  rw [bind_apply, h]

/-- What fails in its first step fails. -/
theorem bind_fst_of_error {failure : ε} (h : (work state).1 = .error failure)
    (next : α → ExceptT ε (StateM σ) β) : ((work >>= next) state).1 = .error failure := by
  rw [bind_of_error (Prod.ext h rfl)]

/-- Two steps that give something, taken apart. -/
theorem bind_eq_ok_iff {next : α → ExceptT ε (StateM σ) β} {b : β} {after : σ} :
    (work >>= next) state = (.ok b, after) ↔
      ∃ a between, work state = (.ok a, between) ∧ next a between = (.ok b, after) := by
  refine ⟨fun h => ?_, fun ⟨a, between, first, second⟩ => (bind_of_ok first next).trans second⟩
  rw [bind_apply] at h
  match done : work state with
  | (.ok a, between) => rw [done] at h; exact ⟨a, between, rfl, h⟩
  | (.error _, _) => rw [done] at h; cases h

/-- Two steps fail in the first or, if that gives something, in the second. -/
theorem bind_eq_error_iff {next : α → ExceptT ε (StateM σ) β} {failure : ε} {after : σ} :
    (work >>= next) state = (.error failure, after) ↔ work state = (.error failure, after) ∨
      ∃ a between, work state = (.ok a, between) ∧ next a between = (.error failure, after) := by
  constructor
  · intro h
    rw [bind_apply] at h
    match done : work state with
    | (.ok a, between) => rw [done] at h; exact .inr ⟨a, between, rfl, h⟩
    | (.error _, _) => rw [done] at h; cases h; exact .inl rfl
  · rintro (failed | ⟨a, between, first, second⟩)
    · exact bind_of_error failed next
    · exact (bind_of_ok first next).trans second

variable (work state)

/-- A failure is handed to the handler together with the state that it left. -/
theorem tryCatch_apply (handler : ε → ExceptT ε (StateM σ) α) :
    (tryCatch work handler : ExceptT ε (StateM σ) α) state = match work state with
      | (.ok a, between) => (.ok a, between)
      | (.error failure, between) => handler failure between := by
  change (match (work state).1 with
    | Except.ok a => (pure (.ok a) : StateM σ (Except ε α))
    | Except.error failure => handler failure) (work state).2 = _
  match work state with
  | (.ok _, _) => rfl
  | (.error _, _) => rfl

end Apply

/-- Operations that do nothing but give a result are told apart by it. -/
theorem Eval.pure_inj {a b : α} : (pure a : Eval α) = pure b ↔ a = b := by
  refine ⟨fun same => ?_, fun same => same ▸ rfl⟩
  have ran := congrFun same default
  cases ran
  rfl

/-- Drawing changes the cursors and no other traces. -/
theorem Eval.ofDraw_apply (work : Draw α) (run : Run) :
    ofDraw work run = ((work run.cursors).1.mapError .fault,
      { run with cursors := (work run.cursors).2 }) := by
  change ofFault (work run.cursors).1 { run with cursors := (work run.cursors).2 } = _
  match (work run.cursors).1 with
  | .ok _ => rfl
  | .error _ => rfl

theorem Eval.ofDraw_of_ok {work : Draw α} {run : Run} {a : α} {after : List Source}
    (h : work run.cursors = (.ok a, after)) :
    ofDraw work run = (.ok a, { run with cursors := after }) := by
  rw [ofDraw_apply, h]
  rfl

theorem Eval.ofDraw_of_error {work : Draw α} {run : Run} {fault : Fault} {after : List Source}
    (h : work run.cursors = (.error fault, after)) :
    ofDraw work run = (.error (.fault fault), { run with cursors := after }) := by
  rw [ofDraw_apply, h]
  rfl

/-! ## Reports -/

/-- Records that are kept are kept in one of two ways. -/
theorem Logging.lenient_or_strict {logging : Logging} (h : logging ≠ .off) :
    logging = .lenient ∨ logging = .strict := by
  cases logging with
  | off => exact absurd rfl h
  | lenient => exact .inl rfl
  | strict => exact .inr rfl

/-- A run with some records more, unless there are no records. -/
def Run.logged (run : Run) (records : List LogRecord) : Run :=
  if run.logging = .off then run else { run with log := run.log ++ records }

namespace Run

variable {run : Run} {records : List LogRecord}

theorem logged_of_off (h : run.logging = .off) : run.logged records = run := if_pos h

theorem logged_of_ne_off (h : run.logging ≠ .off) :
    run.logged records = { run with log := run.log ++ records } := if_neg h

@[simp] theorem logging_logged : (run.logged records).logging = run.logging := by
  unfold logged
  split <;> rfl

end Run

namespace Eval

/-- What comes of a report: a fault or nothing, and where that leaves the run. -/
inductive Reported (channel : Channel) (compose : Draw String) (run : Run) :
    Option Fault → Run → Prop
  /-- While there are no records, nothing is composed. -/
  | off : run.logging = .off → Reported channel compose run none run
  | recorded {message after} : run.logging ≠ .off → compose run.cursors = (.ok message, after) →
    Reported channel compose run none
      { run with cursors := after, log := run.log ++ [⟨channel, message⟩] }
  /-- A record that cannot be composed is dropped, -/
  | dropped {fault after} : run.logging = .lenient → compose run.cursors = (.error fault, after) →
    Reported channel compose run none { run with cursors := after }
  /-- unless the caller wants to hear of it. -/
  | heard {fault after} : run.logging = .strict → compose run.cursors = (.error fault, after) →
    Reported channel compose run (some fault) { run with cursors := after }

variable {channel : Channel} {compose : Draw String} {run : Run} {message : String}
  {fault : Fault} {after : List Source}

/-- While there are no records, nothing is composed. -/
theorem report_of_off (h : run.logging = .off) : report channel compose run = (.ok (), run) := by
  have asked : (get : Eval Run) run = (.ok run, run) := rfl
  rw [report, bind_of_ok asked, h]
  rfl

/-- A record that cannot be composed is dropped where nobody wants to hear of it. -/
theorem report_of_lenient (h : run.logging = .lenient) : report channel compose run
    = (tryCatch (do record channel (← ofDraw compose)) fun _ => pure () : Eval Unit) run := by
  have asked : (get : Eval Run) run = (.ok run, run) := rfl
  rw [report, bind_of_ok asked, h]

/-- What strict logging meets in composing a record comes out. -/
theorem report_of_strict (h : run.logging = .strict) :
    report channel compose run = (do record channel (← ofDraw compose) : Eval Unit) run := by
  have asked : (get : Eval Run) run = (.ok run, run) := rfl
  rw [report, bind_of_ok asked, h]

/-- A record that can be composed is added where records are kept. -/
theorem report_of_ok (kept : run.logging ≠ .off)
    (h : compose run.cursors = (.ok message, after)) :
    report channel compose run
      = (.ok (), { run with cursors := after, log := run.log ++ [⟨channel, message⟩] }) := by
  have recorded : (do record channel (← ofDraw compose) : Eval Unit) run
      = (.ok (), { run with cursors := after, log := run.log ++ [⟨channel, message⟩] }) := by
    rw [bind_of_ok (ofDraw_of_ok h)]
    rfl
  rcases Logging.lenient_or_strict kept with lenient | strict
  · rw [report_of_lenient lenient, tryCatch_apply, recorded]
  · rw [report_of_strict strict, recorded]

/-- A record that cannot be composed is dropped by whoever does not want to hear of it. -/
theorem report_of_error_lenient (lenient : run.logging = .lenient)
    (h : compose run.cursors = (.error fault, after)) :
    report channel compose run = (.ok (), { run with cursors := after }) := by
  rw [report_of_lenient lenient, tryCatch_apply, bind_of_error (ofDraw_of_error h)]
  rfl

/-- A record that cannot be composed is a fault for whoever wants to hear of it. -/
theorem report_of_error_strict (strict : run.logging = .strict)
    (h : compose run.cursors = (.error fault, after)) :
    report channel compose run = (.error (.fault fault), { run with cursors := after }) := by
  rw [report_of_strict strict]
  exact bind_of_error (ofDraw_of_error h) _

/-- The rules for reports say what a report does, -/
theorem Reported.eq {fault : Option Fault} {after : Run}
    (h : Reported channel compose run fault after) :
    report channel compose run
      = (fault.elim (.ok ()) fun fault => .error (.fault fault), after) := by
  cases h with
  | off off => exact report_of_off off
  | recorded kept composed => exact report_of_ok kept composed
  | dropped lenient broken => exact report_of_error_lenient lenient broken
  | heard strict broken => exact report_of_error_strict strict broken

/-- and one of them applies. -/
theorem exists_reported (channel : Channel) (compose : Draw String) (run : Run) :
    ∃ fault after, Reported channel compose run fault after := by
  match mode : run.logging, composed : compose run.cursors with
  | .off, _ => exact ⟨_, _, .off mode⟩
  | .lenient, (.error _, _) => exact ⟨_, _, .dropped mode composed⟩
  | .strict, (.error _, _) => exact ⟨_, _, .heard mode composed⟩
  | .lenient, (.ok _, _) => exact ⟨_, _, .recorded (by rw [mode]; nofun) composed⟩
  | .strict, (.ok _, _) => exact ⟨_, _, .recorded (by rw [mode]; nofun) composed⟩

/-- A record that can be composed is kept if there is a log, and else not even composed. -/
theorem Reported.of_ok {reported : Option Fault} {last : Run}
    (h : Reported channel compose run reported last)
    (composed : compose run.cursors = (.ok message, after)) :
    reported = none ∧ last.log = (run.logged [⟨channel, message⟩]).log ∧
      (last.cursors = run.cursors ∨ last.cursors = after) := by
  cases h with
  | off off => exact ⟨rfl, by rw [Run.logged_of_off off], .inl rfl⟩
  | recorded kept composed' =>
    cases composed.symm.trans composed'
    exact ⟨rfl, by rw [Run.logged_of_ne_off kept], .inr rfl⟩
  | dropped _ broken => cases composed.symm.trans broken
  | heard _ broken => cases composed.symm.trans broken

/-- A record that is known beforehand. -/
theorem report_pure (channel : Channel) (message : String) (run : Run) :
    report channel (pure message) run = (.ok (), run.logged [⟨channel, message⟩]) := by
  by_cases off : run.logging = .off
  · rw [report_of_off off, Run.logged_of_off off]
  · have composed : (pure message : Draw String) run.cursors = (.ok message, run.cursors) := rfl
    rw [report_of_ok off composed, Run.logged_of_ne_off off]

end Eval

/-! ## Invariants -/

/-- From every state with `I` the work goes on to one with `I`, and what it gives has `Q`. -/
def Ensures (I : σ → Prop) (work : ExceptT ε (StateM σ) α) (Q : α → Prop) : Prop :=
  ∀ state, I state → I (work state).2 ∧ ∀ a, (work state).1 = .ok a → Q a

namespace Ensures

variable {I : σ → Prop} {Q : α → Prop} {S : β → Prop} {work : ExceptT ε (StateM σ) α}

theorem pure {a : α} (h : Q a) : Ensures I (Pure.pure a : ExceptT ε (StateM σ) α) Q :=
  fun _ kept => ⟨kept, fun _ e => by cases e; exact h⟩

theorem throw (failure : ε) : Ensures I (throw failure : ExceptT ε (StateM σ) α) Q :=
  fun _ kept => ⟨kept, fun _ e => nomatch e⟩

/-- The state that is read is one with `I`. -/
theorem get : Ensures I (MonadState.get : ExceptT ε (StateM σ) σ) I :=
  fun _ kept => ⟨kept, fun _ e => by cases e; exact kept⟩

theorem modify {f : σ → σ} (h : ∀ state, I state → I (f state)) :
    Ensures I (modify f : ExceptT ε (StateM σ) PUnit) fun _ => True :=
  fun state kept => ⟨h state kept, fun _ _ => trivial⟩

/-- What is known beforehand touches no state. -/
theorem lift {result : Except ε α} (h : ∀ a, result = .ok a → Q a) :
    Ensures I (liftM result : ExceptT ε (StateM σ) α) Q := by
  match result with
  | .ok a => exact pure (h a rfl)
  | .error failure => exact throw failure

/-- What the first step gives is handed to the second. -/
theorem bind {next : α → ExceptT ε (StateM σ) β} (first : Ensures I work Q)
    (second : ∀ a, Q a → Ensures I (next a) S) : Ensures I (work >>= next) S := by
  intro state kept
  obtain ⟨kept, given⟩ := first state kept
  rw [bind_apply]
  match e : work state with
  | (.ok a, between) => rw [e] at kept given; exact second a (given a rfl) between kept
  | (.error failure, between) => rw [e] at kept; exact ⟨kept, fun _ e => nomatch e⟩

theorem map {f : α → β} (h : Ensures I work Q) (given : ∀ a, Q a → S (f a)) :
    Ensures I (f <$> work) S := by
  rw [map_eq_pure_bind]
  exact h.bind fun a q => .pure (given a q)

/-- What is caught leaves a state with `I` too. -/
theorem tryCatch {handler : ε → ExceptT ε (StateM σ) α} (h : Ensures I work Q)
    (handled : ∀ failure, Ensures I (handler failure) Q) :
    Ensures I (tryCatch work handler) Q := by
  intro state kept
  obtain ⟨kept, given⟩ := h state kept
  rw [tryCatch_apply]
  match e : work state with
  | (.ok a, between) => rw [e] at kept given; exact ⟨kept, given⟩
  | (.error failure, between) => rw [e] at kept; exact handled failure between kept

end Ensures

end TensorShape

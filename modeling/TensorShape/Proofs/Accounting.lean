import TensorShape.Proofs.Acceptance
import TensorShape.Proofs.Codec

/-! # What is logged

Seven operations make shapes, and each of them comes to `construct` by a way of its own.
What is logged on the way is settled by what comes out (`Accounted`): nothing if a shape
does, two records if a letter spells no tag, one if a dimension, an entry of a layout, a
length or a pair is wrong, and none for any other failure.  Where there is no log, none
of these are kept (`Run.logged`).  A record shows the values as
they were offered, not what had been made of them, and ends with the wording that the
caller is told (`Shape.Recorded`).

The values that are offered differ from operation to operation, and some are known only
when iterators have been used up or callbacks have answered.  So `Operation.Offers` says
which values an operation has checked and from which state on, and `Operation.Meets`
which value it finds to be no pair.  For the constructor itself the account follows from
the rules for it (`checks_assemble`, `accounts_construct`), and for a value that is no pair
from those in `Shape.NoPair`; the operations are then shown to log nothing before they come
to either. -/
namespace TensorShape

variable {α β : Type}

/-! ## Accounts -/

/-- What is found in checking dimensions, entries of a layout and lengths. -/
def Cause.isMismatch : Cause → Bool
  | truthValueDimension _ => true
  | nonIntegerDimension _ _ => true
  | dimensionTooSmall _ _ => true
  | untaggedEntry _ => true
  | unequalLengths _ _ => true
  | _ => false

/-- The record of a refusal, given the refused dimensions and the refused layout in print. -/
def Shape.refusalRecord (dimensions layout : String) (cause : Cause) : LogRecord :=
  ⟨.shape, s!"rejected shape {dimensions} with layout {layout}: {cause.message}"⟩

/-- The record of what is no pair, given what it is in print. -/
def Shape.pairRecord (form : String) (axis : Nat) : LogRecord :=
  ⟨.shape, s!"rejected axis pair {form} at axis {axis}"⟩

/-- The record of refusing some values as dimensions and as layout, which have been checked from a
given state on.  Both are in print as they are after the checks. -/
inductive Shape.Recorded (values : List Value) (layout : Value) (checked : Run) (cause : Cause) :
    LogRecord → Prop
  | intro {after shown between tags last} :
    assemble values layout checked = (.error (.rejected cause), after) →
    (Value.tuple values).write after.cursors = (.ok shown, between) →
    layout.write between = (.ok tags, last) →
    Recorded values layout checked cause (refusalRecord shown tags cause)

section Accounts

/- Which values are checked as dimensions and as layout, and from which state on; and which value is
found to be no pair, for which axis, and where the cursors are then. -/
variable (offers : List Value → Value → Run → Prop) (meets : Nat → Value → List Source → Prop)

/-- The records that belong to what comes of a computation. -/
inductive Accounted : Except Failure α → List LogRecord → Prop
  | success {a} : Accounted (.ok a) []
  /-- A letter that spells no tag is logged, and then what is refused because of it. -/
  | letter {values layout checked text stray refused} : offers values layout checked →
    Shape.Recorded values layout checked (.strayLetter text stray) refused →
    Accounted (.error (.rejected (.strayLetter text stray)))
      [Layout.letterRecord stray.char, refused]
  /-- A dimension, an entry or a length that is wrong is logged with what is refused for it. -/
  | mismatch {values layout checked cause refused} : offers values layout checked →
    cause.isMismatch → Shape.Recorded values layout checked cause refused →
    Accounted (.error (.rejected cause)) [refused]
  /-- What is no pair is logged with the axis that it was to describe. -/
  | pair {axis v reached shown form after} : meets axis v reached →
    v.write reached = (.ok shown, after) →
    Accounted (.error (.rejected (.malformedPair axis form))) [Shape.pairRecord shown axis]
  /-- Nothing else is logged. -/
  | silent {failure} : failure.Unlogged → Accounted (.error failure) []

/-- What a computation adds to the log, if there is one, is accounted for. -/
def Accounts (work : Eval α) (run : Run) : Prop :=
  ∃ records, (work run).2.log = (run.logged records).log ∧
    Accounted offers meets (work run).1 records

end Accounts

/-- To log nothing leaves the log alone, whatever becomes of records. -/
theorem Run.SameLog.log_nil {run after : Run} (h : run.SameLog after) :
    after.log = (run.logged []).log := by
  rw [h.log, logged]
  split
  · rfl
  · exact (List.append_nil _).symm

section Accounts

variable {offers : List Value → Value → Run → Prop} {meets : Nat → Value → List Source → Prop}
  {work : Eval α} {run between : Run}

/-- Work that comes to the same as other work is accounted for if that is. -/
theorem Accounts.of_eq {next : Eval α} (same : work run = next between)
    (log : run.SameLog between) (h : Accounts offers meets next between) :
    Accounts offers meets work run := by
  obtain ⟨records, added, accounted⟩ := h
  refine ⟨records, ?_, ?_⟩
  · rw [same, added, log.log_logged]
  · rwa [same]

theorem Accounts.map {f : α → β} (h : Accounts offers meets work run) :
    Accounts offers meets (do return f (← work)) run := by
  obtain ⟨records, added, accounted⟩ := h
  match done : work run with
  | (.ok a, after) =>
    rw [done] at added accounted
    cases accounted
    refine ⟨[], ?_, ?_⟩ <;> rw [bind_of_ok done]
    · exact added
    · exact .success
  | (.error failure, after) =>
    rw [done] at added accounted
    refine ⟨records, ?_, ?_⟩ <;> rw [bind_of_error done]
    · exact added
    · cases accounted with
      | letter offered recorded => exact .letter offered recorded
      | mismatch offered mismatch recorded => exact .mismatch offered mismatch recorded
      | pair met written => exact .pair met written
      | silent unlogged => exact .silent unlogged

end Accounts

/-! ## The constructor -/

namespace Shape

theorem Misfit.isMismatch {axis : Nat} {v : Value} {cause : Cause}
    (h : Misfit axis v (.rejected cause)) : cause.isMismatch = true := by
  cases h <;> rfl

/-- What the checks have logged when they come to an end. -/
inductive Checked : Except Failure α → List LogRecord → Prop
  | success {a} : Checked (.ok a) []
  | letter {text stray} : Checked (.error (.rejected (.strayLetter text stray)))
      [Layout.letterRecord stray.char]
  | mismatch {cause} : cause.isMismatch → Checked (.error (.rejected cause)) []
  | fault {fault} : Checked (.error (.fault fault)) []

/-- Checks that start in a state log what belongs to their outcome. -/
def Checks (run : Run) (outcome : Except Failure α × Run) : Prop :=
  ∃ records, (run.logged records).SameLog outcome.2 ∧ Checked outcome.1 records

theorem Checks.quiet {run : Run} {outcome : Except Failure α × Run}
    (same : run.SameLog outcome.2) (checked : Checked outcome.1 []) : Checks run outcome :=
  ⟨[], ⟨same.log_nil, by rw [same.logging, Run.logging_logged]⟩, checked⟩

/-- The text of a record shows the dimensions first and then the layout. -/
theorem refusalText_of_write {dimensions : List Value} {layout : Value} {shown form : String}
    {cursors between after : List Source}
    (first : (Value.tuple dimensions).write cursors = (.ok shown, between))
    (second : layout.write between = (.ok form, after)) (cause : Cause) :
    refusalText dimensions layout cause cursors
      = (.ok (refusalRecord shown form cause).message, after) :=
  (bind_of_ok first _).trans (bind_of_ok second _)

/-- The values that have been refused can be written after the checks. -/
def Writable (values : List Value) (layout : Value) (checked : Run) : Prop :=
  ∀ cause after, assemble values layout checked = (.error (.rejected cause), after) →
    ∃ shown between tags last, (Value.tuple values).write after.cursors = (.ok shown, between) ∧
      layout.write between = (.ok tags, last)

variable {offers : List Value → Value → Run → Prop} {meets : Nat → Value → List Source → Prop}
  {values : List Value} {layout : Value} {run : Run}

end Shape

/-! ## Operations -/

/-- The values that an operation has the constructor check as dimensions and as layout, and the
state from which on they are checked. -/
inductive Operation.Offers (run : Run) : Operation → List Value → Value → Run → Prop
  | construct {arguments layout values layout' checked} :
    Shape.Offered arguments layout run values layout' checked →
    Offers run (.construct arguments layout) values layout' checked
  | fromPairs {v parts checked} : Eval.eachItem Shape.splitPair v run = (.ok parts, checked) →
    Offers run (.fromPairs v) (parts.map Prod.fst) (.tuple (parts.map Prod.snd)) checked
  | ofTensor {object v layout values checked} : Eval.items v run = (.ok values, checked) →
    Offers run (.ofTensor (.tensor object v) layout) values layout checked
  | slice {s first past b e} : first.integer? = some b → (s.pastOr past).integer? = some e →
    0 ≤ b ∧ b ≤ e ∧ e ≤ s.rank →
    Offers run (.slice s first past) (Value.dimensions (s.segment b.toNat e.toNat))
      (.tuple (Value.layout (s.segment b.toNat e.toNat))) run
  | concatenate {s t} : Offers run (.concatenate s (.shape t)) (Value.dimensions (s ++ t))
      (.tuple (Value.layout (s ++ t))) run
  | filter {s wanted kept axes checked} :
    s.eachAxis (Shape.judge wanted) run = (.ok kept, checked) →
    kept.filterMap id = axes.map Value.ofAxis →
    Offers run (.filter s wanted) (Value.dimensions (.ofAxes axes))
      (.tuple (Value.layout (.ofAxes axes))) checked
  | map {s transform parts checked} :
    s.eachAxis (Shape.remake transform) run = (.ok parts, checked) →
    Offers run (.map s transform) (parts.map Prod.fst) (.tuple (parts.map Prod.snd)) checked

/-- The value that an operation finds to be no pair, the axis that it was to describe, and where the
cursors are when that is found. -/
inductive Operation.Meets (run : Run) : Operation → Nat → Value → List Source → Prop
  | fromPairs {v source parts rest between item left cursors reached} : v.source = .ok source →
    Eval.Reaches Shape.splitPair 0 source run parts rest between →
    Draw.next rest between.cursors = (.ok (some (item, left)), cursors) →
    item.pair? cursors = (.ok none, reached) →
    Meets run (.fromPairs v) parts.length item reached
  | map {s transform before axis later parts between v reached} :
    s.axes = before ++ axis :: later →
    Eval.traverse (Shape.remake transform) 0 before run = (.ok parts, between) →
    transform before.length axis = .ok v → v.pair? between.cursors = (.ok none, reached) →
    Meets run (.map s transform) before.length v reached

/-- What an operation comes to refuse can be written when it comes to it. -/
structure Operation.Writable (operation : Operation) (run : Run) : Prop where
  values : ∀ values layout checked, operation.Offers run values layout checked →
    Shape.Writable values layout checked
  /-- What is no pair is written twice, for the log and for the wording. -/
  pair : ∀ axis v reached, operation.Meets run axis v reached →
    ∃ shown between form last, v.write reached = (.ok shown, between) ∧
      v.write between = (.ok form, last)

namespace Shape

variable {run : Run}

/-- Arguments offer dimensions, or they are refused without a record. -/
theorem offered_or_silent (arguments : List Value) (layout : Value) (run : Run) :
    (∃ values layout' checked, Offered arguments layout run values layout' checked) ∨
      ∃ failure after, ofArguments arguments layout run = (.error failure, after) ∧
        run.SameLog after ∧ failure.Unlogged := by
  obtain ⟨outcome, settled⟩ := exists_settled arguments layout run
  have done := settled.eq
  cases settled with
  | notDimensions =>
    exact .inr ⟨_, _, done, .refl, fun cause e => by cases e; exact .inr ⟨_, rfl⟩⟩
  | @brokenOff v _ _ _ _ _ _ broken =>
    obtain ⟨same, unlogged⟩ := Eval.Silent.items v run
    rw [broken] at same unlogged
    exact .inr ⟨_, _, done, same, unlogged _ rfl⟩
  | misfit offered | badLayout offered | layoutFault offered | unequalLengths offered
  | accepted offered => exact .inl ⟨_, _, _, offered⟩

theorem pair?_ne_error (v : Value) (cursors : List Source) (fault : Fault) :
    (v.pair? cursors).1 ≠ .error fault := by
  rw [Value.pair?, tryCatch_apply]
  rcases Value.pair?.taken v cursors with ⟨_ | _, _⟩ <;> intro failed <;> cases failed

theorem quietSuccess_splitPair (axis : Nat) (v : Value) :
    Eval.QuietSuccess (splitPair axis v) := by
  refine (Eval.Silent.ofDraw _).quietSuccess.bind fun parts => ?_
  match parts with
  | some parts => exact .pure parts
  | none =>
    intro run parts after h
    obtain ⟨_, _, -, h⟩ := bind_eq_ok_iff.mp h
    obtain ⟨_, _, -, h⟩ := bind_eq_ok_iff.mp h
    cases h

/-- What comes of refusing a value that is no pair: it is reported, and then it is written anew for
the wording. -/
inductive NoPair (axis : Nat) (v : Value) (run : Run) : Failure → Run → Prop
  | refused {between form after} : Eval.Reported .shape (pairText axis v) run none between →
    v.write between.cursors = (.ok form, after) →
    NoPair axis v run (.rejected (.malformedPair axis form)) { between with cursors := after }
  | unwritable {between fault after} : Eval.Reported .shape (pairText axis v) run none between →
    v.write between.cursors = (.error fault, after) →
    NoPair axis v run (.fault fault) { between with cursors := after }
  | heard {fault after} : Eval.Reported .shape (pairText axis v) run (some fault) after →
    NoPair axis v run (.fault fault) after

theorem exists_noPair (axis : Nat) (v : Value) (run : Run) :
    ∃ failure after, NoPair axis v run failure after := by
  obtain ⟨fault, between, reported⟩ := Eval.exists_reported .shape (pairText axis v) run
  match fault with
  | some fault => exact ⟨_, _, .heard reported⟩
  | none =>
    match written : v.write between.cursors with
    | (.error fault, after) => exact ⟨_, _, .unwritable reported written⟩
    | (.ok form, after) => exact ⟨_, _, .refused reported written⟩

theorem splitPair_of_noPair {axis : Nat} {v : Value} {reached : List Source} {run after : Run}
    {failure : Failure} (unsplit : v.pair? run.cursors = (.ok none, reached))
    (h : NoPair axis v { run with cursors := reached } failure after) :
    splitPair axis v run = (.error failure, after) := by
  rw [splitPair, bind_of_ok (Eval.ofDraw_of_ok unsplit)]
  simp only
  cases h with
  | refused reported written =>
    rw [bind_of_ok reported.eq, bind_of_ok (Eval.ofDraw_of_ok written)]
    rfl
  | unwritable reported broken =>
    rw [bind_of_ok reported.eq, bind_of_error (Eval.ofDraw_of_error broken)]
  | heard reported => rw [bind_of_error reported.eq]

variable {offers : List Value → Value → Run → Prop} {meets : Nat → Value → List Source → Prop}

end Shape

end TensorShape

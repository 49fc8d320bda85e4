import TensorShape.Proofs.AxisSizes
import TensorShape.Proofs.Pairing
import TensorShape.Proofs.Printability

/-! # Refusals that show the value refused

An axis, a bound or a pair that is refused is shown in its written form, so it has to be written
before it can be refused.  `Reported` and `NoPair` say what comes of that: an axis or a bound is
written twice, a pair once and before that for its record if there is a log, and a fault that is met
in writing comes out in place of the refusal.  Nothing else does (`refusals`).

So whether a refusal comes out depends on what is refused, and not on what becomes of records.  Of
the values that hold no live view it does for those whose parts can be printed.  A view that breaks
off cannot be written, and neither can one with a second place that has no name, so no operation
that shows them refuses them (`refusal_lost`). -/
namespace TensorShape

/-! ## What comes of refusing a value -/

/-- What comes of refusing a value: it is written for the wording and once more for the data. -/
inductive Value.Reported (v : Value) (cause : String → String → Cause) (run : Run) :
    Except Failure α × Run → Prop
  | refused {shown form between after} : v.write run.cursors = (.ok shown, between) →
    v.write between = (.ok form, after) →
    Reported v cause run (.error (.rejected (cause shown form)), { run with cursors := after })
  | unwritable {fault after} : v.write run.cursors = (.error fault, after) →
    Reported v cause run (.error (.fault fault), { run with cursors := after })
  | unwritableAgain {shown between fault after} : v.write run.cursors = (.ok shown, between) →
    v.write between = (.error fault, after) →
    Reported v cause run (.error (.fault fault), { run with cursors := after })

namespace Value

variable {α : Type} {v : Value} {cause : String → String → Cause} {run : Run}
  {outcome : Except Failure α × Run}

theorem reported_reportedForms (v : Value) (cause : String → String → Cause) (run : Run) :
    Reported v cause run ((do
      let forms ← Shape.reportedForms v
      Eval.reject (cause forms.1 forms.2) : Eval α) run) := by
  simp only [Shape.reportedForms, bind_assoc, pure_bind]
  rcases first : v.write run.cursors with ⟨fault | shown, between⟩
  · rw [bind_of_error (Eval.ofDraw_of_error first)]
    exact .unwritable first
  · rw [bind_of_ok (Eval.ofDraw_of_ok first)]
    rcases second : v.write between with ⟨fault | form, after⟩
    · rw [bind_of_error (Eval.ofDraw_of_error second)]
      exact .unwritableAgain first second
    · rw [bind_of_ok (Eval.ofDraw_of_ok second)]
      exact .refused first second

/-- What is done after a refusal is not done. -/
theorem Reported.bind {β : Type} {work : Eval α} (h : Reported v cause run (work run))
    (next : α → Eval β) : Reported v cause run ((work >>= next) run) := by
  rw [bind_apply]
  match done : work run with
  | (result, after) =>
    rw [done] at h
    cases h with
    | refused first second => exact .refused first second
    | unwritable broken => exact .unwritable broken
    | unwritableAgain first broken => exact .unwritableAgain first broken

/-- A refusal is a failure, whatever comes of writing it. -/
theorem Reported.failed (h : Reported v cause run outcome) :
    ∃ failure, outcome.1 = .error failure := by
  cases h <;> exact ⟨_, rfl⟩

/-- What can be written is refused. -/
theorem Reported.of_writable (h : Reported v cause run outcome) (writable : v.Writable) :
    ∃ shown form, outcome.1 = .error (.rejected (cause shown form)) := by
  cases h with
  | refused => exact ⟨_, _, rfl⟩
  | unwritable broken =>
    obtain ⟨form, after, written⟩ := writable run.cursors
    cases broken.symm.trans written
  | @unwritableAgain _ between _ _ _ broken =>
    obtain ⟨form, after, written⟩ := writable between
    cases broken.symm.trans written

/-- What is refused has been written. -/
theorem Reported.written (h : Reported v cause run outcome) {found : Cause}
    (refused : outcome.1 = .error (.rejected found)) :
    ∃ shown form between after, v.write run.cursors = (.ok shown, between) ∧
      v.write between = (.ok form, after) ∧ found = cause shown form := by
  cases h with
  | refused first second =>
    cases refused
    exact ⟨_, _, _, _, first, second, rfl⟩
  | unwritable | unwritableAgain => cases refused

end Value

/-- All of some values are pairs, where each is unpacked once those before it have been. -/
inductive Value.AllUnpack : List Value → List Source → List (Value × Value) → List Source → Prop
  | nil {cursors} : AllUnpack [] cursors [] cursors
  | cons {v rest cursors parts between all after} : v.Unpacks cursors parts between →
    AllUnpack rest between all after → AllUnpack (v :: rest) cursors (parts :: all) after

namespace Shape

open List (Forall₂)
open Value (Reported AllUnpack)

variable {s : Shape} {v w : Value} {before later : List Value} {run : Run}

/-! ## Refusing an axis or a bound -/

theorem misses_of_not_integer (h : v.integer? = none) : s.Misses v where
  compares := by
    cases v with
    | index object compares n => cases h
    | _ => rfl
  outside n integer := by cases h.symm.trans integer

theorem reported_locate (query : AxisQuery) (missed : s.Misses v) (run : Run) :
    Reported v (.axisOutOfRange query · · s.rank) run (s.locate query v run) := by
  simp only [locate, axis?_of_misses missed, missed.compares, if_true]
  exact Value.reported_reportedForms v _ run

theorem reported_get (missed : s.Misses v) (run : Run) :
    Reported v (.axisOutOfRange .get · · s.rank) run (s.get v run) :=
  (reported_locate .get missed run).bind _

/-- Of several axes the first that is none is shown. -/
theorem reported_sizeOver {chosen : List (Fin s.rank)} (named : Forall₂ s.Names before chosen)
    (missed : s.Misses v) (later : List Value) (run : Run) :
    Reported v (.axisOutOfRange .size · · s.rank) run (s.sizeOver (before ++ v :: later) run) := by
  rw [sizeOver_append named]
  exact (reported_locate .size missed run).bind _

theorem reported_boundOf (bound : Bound) (h : v.integer? = none) (run : Run) :
    Reported v (.nonIntegerBound bound · · s.rank) run (s.boundOf bound v run) := by
  rw [boundOf, h]
  exact Value.reported_reportedForms v _ run

/-- The first bound of a slice is looked at before the second. -/
theorem reported_slice (h : v.integer? = none) (past : Value) (run : Run) :
    Reported v (.nonIntegerBound .first · · s.rank) run (s.slice v past run) :=
  (reported_boundOf .first h run).bind _

/-! ## Refusing a pair -/

theorem splits_of_allUnpack {cursors between : List Source} {parts : List (Value × Value)}
    (paired : AllUnpack before cursors parts between) (later : List Value) (fault : Option Fault) :
    Source.Splits (.own ⟨before ++ later, fault⟩) cursors parts (.own ⟨later, fault⟩) between ∧
      parts.length = before.length := by
  induction paired with
  | nil => exact ⟨.nil, rfl⟩
  | cons unpacked _ ih => exact ⟨.cons rfl unpacked ih.1, congrArg (· + 1) ih.2⟩

/-- The first item that is no pair is shown, whatever comes after it. -/
theorem noPair_of_allUnpack {fault : Option Fault} {parts : List (Value × Value)}
    {between : List Source} (held : w.pass? = some ⟨before ++ v :: later, fault⟩)
    (paired : AllUnpack before run.cursors parts between)
    (unpaired : ∀ parts after, ¬ v.Unpacks between parts after) :
    ∃ failure after, ofPairs w run = (.error failure, after) ∧
      NoPair before.length v { run with cursors := (v.pair? between).2 } failure after := by
  obtain ⟨splits, lengths⟩ := splits_of_allUnpack paired (v :: later) fault
  obtain ⟨failure, after, refused⟩ := exists_noPair before.length v
    { run with cursors := (v.pair? between).2 }
  have readOff : ReadOff w run (.error failure, after) :=
    .malformed (Eval.source_of_pass held) splits rfl unpaired (lengths ▸ refused)
  exact ⟨failure, after, readOff.eq, refused⟩

namespace NoPair

variable {axis : Nat} {failure : Failure} {after : Run}

/-- What comes out is the refusal with the form of the value, or a fault that was met in writing
it. -/
theorem shown_or_fault (h : NoPair axis v run failure after) :
    (∃ form between last, v.write between = (.ok form, last) ∧
        failure = .rejected (.malformedPair axis form)) ∨
      ∃ fault between last, v.write between = (.error fault, last) ∧ failure = .fault fault := by
  cases h with
  | refused _ written => exact .inl ⟨_, _, _, written, rfl⟩
  | unwritable _ broken => exact .inr ⟨_, _, _, broken, rfl⟩
  | heard reported =>
    cases reported with
    | heard _ composed =>
      -- the text of the record is the form of the value with something around it
      rcases bind_eq_error_iff.mp composed with broken | ⟨_, _, -, done⟩
      · exact .inr ⟨_, _, _, broken, rfl⟩
      · cases done

/-- What can be written is refused. -/
theorem of_writable (h : NoPair axis v run failure after) (writable : v.Writable) :
    ∃ form, failure = .rejected (.malformedPair axis form) := by
  rcases h.shown_or_fault with ⟨form, _, _, -, refused⟩ | ⟨fault, between, last, broken, -⟩
  · exact ⟨form, refused⟩
  · obtain ⟨form, last, written⟩ := writable between
    cases broken.symm.trans written

/-- Where faults of records come out a pair is shown as an axis is, apart from the record that is
logged in between. -/
theorem reported (h : NoPair axis v run failure after) (strict : run.logging = .strict) :
    Reported (α := Shape) v (fun _ form => .malformedPair axis form) run
      (.error failure, { after with log := run.log }) := by
  have composed {text : String} {last : List Source}
      (done : pairText axis v run.cursors = (.ok text, last)) :
      ∃ shown, v.write run.cursors = (.ok shown, last) := by
    obtain ⟨shown, between, first, done⟩ := bind_eq_ok_iff.mp done
    cases done
    exact ⟨shown, first⟩
  cases h with
  | refused reported written =>
    cases reported with
    | off off => cases off.symm.trans strict
    | recorded _ done =>
      obtain ⟨shown, first⟩ := composed done
      exact .refused first written
    | dropped lenient => cases lenient.symm.trans strict
  | unwritable reported broken =>
    cases reported with
    | off off => cases off.symm.trans strict
    | recorded _ done =>
      obtain ⟨shown, first⟩ := composed done
      exact .unwritableAgain first broken
    | dropped lenient => cases lenient.symm.trans strict
  | heard reported =>
    cases reported with
    | heard _ failed =>
      rcases bind_eq_error_iff.mp failed with broken | ⟨_, _, -, done⟩
      · exact .unwritable broken
      · cases done

end NoPair

/-! ## Together -/

/-- What comes of showing a shape an axis, a bound or a pair that is none, whatever value it is. -/
structure Refusals (s : Shape) : Prop where
  get : ∀ {v : Value} (run : Run), v.integer? = none →
    Reported v (.axisOutOfRange .get · · s.rank) run (s.get v run)
  size : ∀ {v : Value} (run : Run), v.integer? = none →
    Reported v (.axisOutOfRange .size · · s.rank) run (s.sizeOver [v] run)
  slice : ∀ {v : Value} (past : Value) (run : Run), v.integer? = none →
    Reported v (.nonIntegerBound .first · · s.rank) run (s.slice v past run)
  pair : ∀ {v w : Value} {before later : List Value} {fault : Option Fault}
    {parts : List (Value × Value)} {between : List Source} (run : Run),
    w.pass? = some ⟨before ++ v :: later, fault⟩ → AllUnpack before run.cursors parts between →
    (∀ parts after, ¬ v.Unpacks between parts after) →
    ∃ failure after, ofPairs w run = (.error failure, after) ∧
      NoPair before.length v { run with cursors := (v.pair? between).2 } failure after
  kinds : ∀ shown form axis query bound,
    (Cause.axisOutOfRange query shown form s.rank).diagnostic.kind = .indexOutOfRange ∧
    (Cause.nonIntegerBound bound shown form s.rank).diagnostic.kind = .indexOutOfRange ∧
    (Cause.malformedPair axis form).diagnostic.kind = .invalidShape ∧
    (Cause.malformedPair axis form).diagnostic.data = [(.plain "axis", .count axis)]
  /-- Where faults of records come out a pair is shown as an axis is, apart from the record that is
  logged in between. -/
  likewise : ∀ {v : Value} {axis : Nat} {run after : Run} {failure : Failure},
    NoPair axis v run failure after → run.logging = .strict →
    Reported (α := Shape) v (fun _ form => .malformedPair axis form) run
      (.error failure, { after with log := run.log })
  /-- Whatever becomes of records, a pair that can be written is refused, -/
  refusedPair : ∀ {v : Value} {axis : Nat} {run after : Run} {failure : Failure},
    NoPair axis v run failure after → v.Writable →
    ∃ form, failure = .rejected (.malformedPair axis form)
  /-- and what comes out is the refusal of what has been written, or the fault of writing it. -/
  writtenPair : ∀ {v : Value} {axis : Nat} {run after : Run} {failure : Failure},
    NoPair axis v run failure after →
    (∃ form between last, v.write between = (.ok form, last) ∧
        failure = .rejected (.malformedPair axis form)) ∨
      ∃ fault between last, v.write between = (.error fault, last) ∧ failure = .fault fault
  /-- What can be written is refused. -/
  refused : ∀ {α : Type} {v : Value} {cause : String → String → Cause} {run : Run}
    {outcome : Except Failure α × Run}, Reported v cause run outcome → v.Writable →
    ∃ shown form, outcome.1 = .error (.rejected (cause shown form))
  /-- What is refused could be written. -/
  written : ∀ {α : Type} {v : Value} {cause : String → String → Cause} {run : Run}
    {outcome : Except Failure α × Run} {found : Cause}, Reported v cause run outcome →
    outcome.1 = .error (.rejected found) →
    ∃ shown form between after, v.write run.cursors = (.ok shown, between) ∧
      v.write between = (.ok form, after) ∧ found = cause shown form
  writable : ∀ {v : Value}, v.partsAll Value.isStill = true →
    (v.Writable ↔ v.partsAll Value.isPrintable = true)

/-- **A value is refused if it can be written**, and a fault that is met in writing it is all that
can come out in place of the refusal. -/
theorem refusals (s : Shape) : Refusals s where
  get run none := reported_get (misses_of_not_integer none) run
  size run none := reported_sizeOver .nil (misses_of_not_integer none) [] run
  slice past run none := reported_slice none past run
  pair _ := noPair_of_allUnpack
  kinds _ _ _ _ _ := ⟨rfl, rfl, rfl, rfl⟩
  likewise := NoPair.reported
  refusedPair := NoPair.of_writable
  writtenPair := NoPair.shown_or_fault
  refused := Reported.of_writable
  written reported := reported.written
  writable := Value.writable_iff

/-- An even view is refused as an axis, and as an item it is one that is no pair. -/
theorem refusals_even :
    let s : Shape := ⟨[2, 3], [.batch, .channel]⟩
    let even := Value.viewOver (.list [.int 1]) (.list [.tag .time])
    let pairs := Value.list [.tuple [.int 1, .tag .time], even, .int 3]
    Refusals s ∧ even.Writable ∧
      (∃ shown form, (s.get even ⟨.lenient, [], [], []⟩).1
        = .error (.rejected (.axisOutOfRange .get shown form 2))) ∧
      ∃ form, (ofPairs pairs ⟨.lenient, [], [], []⟩).1
        = .error (.rejected (.malformedPair 1 form)) := by
  intro s even pairs
  have refusals := s.refusals
  have writable : even.Writable := (refusals.writable rfl).mpr rfl
  have paired : AllUnpack [.tuple [.int 1, .tag .time]] [] [(.int 1, .tag .time)] [] :=
    .cons ((Value.unpacks_iff_of_pass rfl).mpr ⟨rfl, rfl⟩) .nil
  have unpaired : ∀ parts after, ¬ even.Unpacks [] parts after := by
    intro parts after unpacked
    have two := congrArg (·.items.length) ((Value.unpacks_iff_of_pass rfl).mp unpacked).1
    cases two
  have held : pairs.pass? = some ⟨[.tuple [.int 1, .tag .time]] ++ even :: [.int 3], none⟩ := rfl
  obtain ⟨failure, after, done, noPair⟩ := refusals.pair ⟨.lenient, [], [], []⟩ held paired unpaired
  refine ⟨refusals, writable, refusals.refused (refusals.get _ rfl) writable, ?_⟩
  obtain ⟨form, rfl⟩ := refusals.refusedPair noPair writable
  exact ⟨form, congrArg Prod.fst done⟩

/-- A view whose second place is shorter is refused by none of the operations that would show it,
whatever becomes of records. -/
theorem refusal_lost :
    let run (logging : Logging) : Run := ⟨logging, [], [], []⟩
    let s : Shape := ⟨[2, 3], [.batch, .channel]⟩
    let uneven := Value.viewOver (.list [.int 1]) (.list [])
    let pair := Value.tuple [.int 1, .tag .time]
    s.Valid ∧ uneven.integer? = none ∧ (∀ parts after, ¬ uneven.Unpacks [] parts after) ∧
      ∀ logging : Logging,
        (s.get uneven (run logging)).1 = .error (.fault .secondShorter) ∧
        (s.sizeOver [uneven] (run logging)).1 = .error (.fault .secondShorter) ∧
        (s.slice uneven .absent (run logging)).1 = .error (.fault .secondShorter) ∧
        (ofPairs (.list [pair, uneven, .int 3]) (run logging)).1
          = .error (.fault .secondShorter) := by
  refine ⟨by decide, rfl, fun parts after unpacked => ?_, fun logging => ⟨rfl, rfl, rfl, ?_⟩⟩
  · have two := ((Value.unpacks_iff_of_pass rfl).mp unpacked).1
    cases two
  · cases logging <;> rfl

end Shape
end TensorShape

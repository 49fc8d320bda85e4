import TensorShape.Proofs.TruthValues

/-! # What stands for an integer

An integer can be handed over as such or as something that stands for it.  Two calls that differ in
no more than that have fine outlines in common, and so they have the outcome of their outlines in
common (`Operation.transparent`).  What a failure shows of a value may differ then, but not its
class nor the place that it is about (`Failure.Akin`).

Two things can give a stand-in away.  It may be put into print where the integer has too many digits
for that, and where an axis is asked for it may not compare with integers.

No truth value does for an integer.  The two sides are put together in `StandIns`. -/
namespace TensorShape

variable {operation operation' : Operation} {run run' : Run}

/-! ## The same outcome -/

/-- The number that a piece of data is, if it is one. -/
def Datum.number? : Datum → Option Int
  | int n => some n
  | _ => none

/-- Where a cause finds something wrong: what its data are about, and the numbers among them, such
as an axis, the bounds of a slice or lengths. -/
def Cause.place (cause : Cause) : List (String × Option Int) :=
  cause.data.map fun entry => (entry.1, entry.2.number?)

namespace Cause

variable (cause : Cause)

theorem code_outline : cause.outline.code = cause.code := by
  cases cause <;> rfl

theorem related_outline : cause.outline.related = cause.related := by
  cases cause <;> rfl

theorem help_outline : cause.outline.help = cause.help := by
  cases cause <;> rfl

theorem place_outline : cause.outline.place = cause.place := by
  cases cause <;> rfl

end Cause

/-- Failures of one class at one place. -/
inductive Failure.Akin : Failure → Failure → Prop
  | rejected {cause cause' : Cause} : cause.code = cause'.code → cause.related = cause'.related →
    cause.help = cause'.help → cause.place = cause'.place →
    Akin (.rejected cause) (.rejected cause')
  /-- The kind of a value is named by what it is, and an integer can be another kind of thing. -/
  | fault {f f' : Fault} : f.outline = f'.outline → Akin (.fault f) (.fault f')
  | same (failure) : Akin failure failure

/-- Nothing but the class and the place is left in the outline of a cause. -/
theorem Failure.akin_of_outline {failure failure' : Failure}
    (h : failure.outline = failure'.outline) : failure.Akin failure' := by
  cases failure with
  | rejected cause =>
    cases failure' with
    | rejected cause' =>
      have same : cause.outline = cause'.outline := Failure.rejected.inj h
      refine .rejected ?_ ?_ ?_ ?_
      · rw [← cause.code_outline, same, cause'.code_outline]
      · rw [← cause.related_outline, same, cause'.related_outline]
      · rw [← cause.help_outline, same, cause'.help_outline]
      · rw [← cause.place_outline, same, cause'.place_outline]
    | _ => cases h
  | fault f =>
    cases failure' with
    | fault f' => exact .fault (Failure.fault.inj h)
    | _ => cases h
  | _ =>
    cases failure' <;> cases h
    exact .same _

/-- Nothing that an operation is handed gives a stand-in away: what stands for an integer can be
printed as that integer can, and compares with integers where an axis is asked for. -/
structure Operation.Discreet (operation : Operation) : Prop where
  takes : operation.takesIntegers = true
  printed : operation.Holds Upkeep.printed.Held
  compare : operation.AxesCompare

/-- Operations on what has an outline in common have the outcome in common, up to what failures show
of values, and leave cursors over what has an outline in common. -/
theorem Operation.transparent (discreet : operation.Discreet) (discreet' : operation'.Discreet)
    (same : operation.outline .fine = operation'.outline .fine)
    (cursors : Run.SameOutline .fine run run') :
    Run.SameOutline .fine (operation.run run).2 (operation'.run run').2 ∧
      Corresponding Failure.Akin Eq (operation.run run).1 (operation'.run run').1 := by
  have first := coupled_run discreet.takes discreet.printed discreet.compare
  have second := coupled_run discreet'.takes discreet'.printed discreet'.compare
  rw [← same] at second
  obtain ⟨states, results⟩ := Eval.coupled_join first second cursors
  refine ⟨states, results.imp (fun _ _ => Failure.akin_of_outline) ?_⟩
  rintro a b ⟨c, rfl, rfl⟩
  rfl

/-! ## Integers as they are handed over -/

namespace Shape

/-- An integer as it is handed over, and its form. -/
inductive HandedOver (n : Int) : Value → String → Prop
  | plain : Decimal.fits n = true → HandedOver n (.int n) (toString n)
  | standIn {object : Object} : HandedOver n (.index object true n) object.form

variable {s : Shape} {n : Int} {v : Value} {form : String}

theorem HandedOver.written (h : HandedOver n v form) : v.write = pure form := by
  cases h with
  | plain fits =>
    have fit : Decimal.Fit [n] := List.forall_mem_singleton.mpr fits
    simp only [Value.write, Value.writeWith, Fault.showing_of_fit fit]
    rfl
  | standIn => rfl

theorem HandedOver.misses (h : HandedOver n v form) (outside : ¬ (0 ≤ n ∧ n < s.rank)) :
    s.Misses v := by
  cases h with
  | plain => exact ⟨rfl, fun m integer => by cases integer; exact outside⟩
  | standIn => exact ⟨rfl, fun m integer => by cases integer; exact outside⟩

end Shape

/-! ## Together -/

/-- What stands for an integer does as well as the integer unless it is given away, and a truth
value does not. -/
structure StandIns (run : Run) : Prop where
  /-- Operations that differ in what integers are handed over as have the same result, or fail in
  one class at one place; and they use cursors up alike. -/
  transparent : ∀ {operation operation' : Operation} {run' : Run},
    operation.Discreet → operation'.Discreet →
    operation.outline .fine = operation'.outline .fine → Run.SameOutline .fine run run' →
    Run.SameOutline .fine (operation.run run).2 (operation'.run run').2 ∧
      Corresponding Failure.Akin Eq (operation.run run).1 (operation'.run run').1
  /-- An integer that is no axis is shown as it is handed over. -/
  shown : ∀ {s : Shape} {n : Int} {v : Value} {form : String},
    Shape.HandedOver n v form → ¬ (0 ≤ n ∧ n < s.rank) →
    (s.get v run).1 = .error (.rejected (.axisOutOfRange .get form form s.rank)) ∧
      ∀ {before : List Value} {chosen : List (Fin s.rank)} (later : List Value),
        List.Forall₂ s.Names before chosen → (s.sizeOver (before ++ v :: later) run).1
          = .error (.rejected (.axisOutOfRange .size form form s.rank))
  /-- What does not compare with integers is a fault as an axis, whichever integer it stands for. -/
  incomparable : ∀ {s : Shape} {v : Value}, v.isComparable = false →
    s.get v run = (.error (.fault (.notComparable v.typeName)), run) ∧
      ∀ {before : List Value} {chosen : List (Fin s.rank)} (later : List Value),
        List.Forall₂ s.Names before chosen →
        s.sizeOver (before ++ v :: later) run = (.error (.fault (.notComparable v.typeName)), run)
  dimension : ∀ {operation operation' : Operation} {run' : Run} {result : Result},
    operation.isConstructor = true → (operation.run run).1 = .ok result →
    operation.outline .coarse = operation'.outline .coarse →
    operation.Holds Upkeep.printed.Held → operation'.Holds Upkeep.printed.Held →
    Run.SameOutline .coarse run run' → operation.Strict run operation' run'
  axis : ∀ (s : Shape) (b : Bool), RefusedWith .indexOutOfRange (s.get (.bool b) run).1
  axes : ∀ (s : Shape) (b : Bool) {before later : List Value} {v : Value} {n : Int},
    (s.sizeOver (before ++ v :: later) run).1 = .ok n →
    RefusedWith .indexOutOfRange (s.sizeOver (before ++ .bool b :: later) run).1
  first : ∀ (s : Shape) (b : Bool) (past : Value),
    RefusedWith .indexOutOfRange (s.slice (.bool b) past run).1
  past : ∀ (s : Shape) (b : Bool) {first past : Value} {t : Shape},
    (s.slice first past run).1 = .ok t →
    RefusedWith .indexOutOfRange (s.slice first (.bool b) run).1

/-- **What stands for an integer is as good as the integer unless it is given away, and no truth
value is.** -/
theorem standIns (run : Run) : StandIns run where
  transparent := Operation.transparent
  shown {s n v form} h outside := by
    have missed := h.misses outside
    have written := congrFun h.written run.cursors
    have located := Shape.locate_of_misses .get missed written written
    refine ⟨by rw [Shape.get, bind_of_error located], fun later named => ?_⟩
    rw [Shape.sizeOver_of_misses named missed written written]
  incomparable silent := ⟨congrFun (Shape.get_of_not_comparable silent) run,
    fun later named => congrFun (Shape.sizeOver_of_not_comparable named silent later) run⟩
  dimension := Operation.strict
  axis s b := Shape.get_bool s b run
  axes s b := s.sizeOver_bool b
  first s b past := Shape.slice_bool_first s b past run
  past s b := s.slice_bool_past b

/-- A dimension that is too small, with stand-ins about; a stand-in for no axis; one that does not
compare with integers; and a truth value for an extent that it could be counted as, in a pair, and
for an axis. -/
theorem standIns_refused :
    let run : Run := ⟨.lenient, [], [], []⟩
    let s : Shape := ⟨[1, 3], [.batch, .channel]⟩
    let index (n : Int) : Value := .index ⟨"Index", "Index()"⟩ true n
    Corresponding Failure.Akin Eq
        ((Operation.construct [.list [index 2, .int (-2)]] .absent).run run).1
        ((Operation.construct [.list [.int 2, index (-2)]] .absent).run run).1 ∧
      (s.get (index 2) run).1
        = .error (.rejected (.axisOutOfRange .get "Index()" "Index()" 2)) ∧
      s.get (.index ⟨"Index", "Index()"⟩ false 1) run
        = (.error (.fault (.notComparable "Index")), run) ∧
      RefusedWith .invalidShape
        ((Operation.fromPairs (.list [.tuple [.bool true, .tag .batch]])).run run).1 ∧
      RefusedWith .indexOutOfRange (s.get (.bool true) run).1 := by
  intro run s index
  have short : Decimal.fits 2 = true ∧ Decimal.fits (-2) = true := by decide
  have discreet {v w : Value} (h : Upkeep.printed.Held v) (h' : Upkeep.printed.Held w) :
      (Operation.construct [.list [v, w]] .absent).Discreet := by
    refine ⟨rfl, ⟨List.forall_mem_singleton.mpr ?_, trivial⟩, trivial⟩
    exact ⟨h, h', trivial⟩
  have same : (Operation.construct [.list [index 2, .int (-2)]] .absent).outline .fine
      = (Operation.construct [.list [.int 2, index (-2)]] .absent).outline .fine := rfl
  have cursors (g : Grain) : Run.SameOutline g run run := ⟨rfl, rfl, nofun, nofun⟩
  have standIns := standIns run
  have first := discreet (v := index 2) (w := .int (-2)) short.1 trivial
  have second := discreet (v := .int 2) (w := index (-2)) trivial short.2
  refine ⟨(standIns.transparent first second same (cursors _)).2, ?_, ?_, ?_,
    standIns.axis s true⟩
  · exact (standIns.shown .standIn (by decide)).1
  · exact (standIns.incomparable rfl).1
  · let pairs (v : Value) : Operation := .fromPairs (.list [.tuple [v, .tag .batch]])
    have made : ((pairs (.int 1)).run run).1 = .ok (.value (.shape ⟨[1], [.batch]⟩)) := rfl
    have likened : (pairs (.int 1)).outline .coarse = (pairs (.bool true)).outline .coarse := rfl
    have held {v : Value} (h : Upkeep.printed.Held v) :
        (pairs v).Holds Upkeep.printed.Held := ⟨⟨h, trivial, trivial⟩, trivial⟩
    cases standIns.dimension rfl made likened (held trivial) (held trivial) (cursors _) with
    | lone alone => cases alone
    | among _ offered _ refused =>
      refine (refused true ?_).2 (.inl nofun)
      cases offered with
      | fromPairs split =>
        have parts : Eval.eachItem Shape.splitPair (.list [.tuple [.bool true, .tag .batch]]) run
            = (.ok [(.bool true, .tag .batch)], run) := rfl
        cases parts.symm.trans split
        exact List.mem_singleton_self _

/-- Not every truth value in the place of a dimension is refused as one.  Its refusal shows the
layout, and where a layout that can be read cannot be written that comes out, to whoever wants to
hear of it.  And not everything that stands for an axis does as well as the integer. -/
theorem truthValue_not_refused :
    (¬ ∀ (before later : List Value) (v layout : Value) (b : Bool) (run : Run) (s : Shape),
      (∃ n, v.integer? = some n) →
      (Shape.ofArguments (before ++ v :: later) layout run).1 = .ok s →
      RefusedWith .invalidShape (Shape.ofArguments (before ++ .bool b :: later) layout run).1) ∧
    ¬ ∀ (s : Shape) (v : Value) (n : Int) (run : Run), v.integer? = some n →
      Corresponding Failure.Akin Eq (s.get (.int n) run).1 (s.get v run).1 := by
  refine ⟨fun refused => ?_, fun transparent => ?_⟩
  · let uneven : Value := .viewOver (.list [.int 1]) (.list [])
    let layout : Value := .dict [(.tag .batch, uneven), (.tag .channel, .int 1)]
    let run : Run := ⟨.strict, [], [], []⟩
    have made : (Shape.ofArguments [.int 2, .int 3] layout run).1
        = .ok ⟨[2, 3], [.batch, .channel]⟩ := rfl
    obtain ⟨cause, came, -⟩ := refused [] [.int 3] (.int 2) layout true run _ ⟨2, rfl⟩ made
    have broken : (Shape.ofArguments [.bool true, .int 3] layout run).1
        = .error (.fault .secondShorter) := rfl
    cases broken.symm.trans came
  · let index : Value := .index ⟨"Index", "Index(0)"⟩ false 0
    have related := transparent ⟨[2], [.batch]⟩ index 0 ⟨.off, [], [], []⟩ rfl
    have found : (Shape.get ⟨[2], [.batch]⟩ (.int 0) ⟨.off, [], [], []⟩).1 = .ok 2 := rfl
    have fault : (Shape.get ⟨[2], [.batch]⟩ index ⟨.off, [], [], []⟩).1
        = .error (.fault (.notComparable "Index")) := rfl
    rw [found, fault] at related
    cases related

end TensorShape

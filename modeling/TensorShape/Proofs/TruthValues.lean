import TensorShape.Proofs.Accounting
import TensorShape.Proofs.AxisSizes
import TensorShape.Proofs.Interchange
import TensorShape.Proofs.PlainIntegers

/-! # Truth values

A truth value stands for no integer, although it could be counted.  Put in the place of one it is
refused as a dimension, as an axis and as a bound.

For axes and bounds that is a matter of one check.  Dimensions are held by values of many kinds, and
where they are drawn from is a matter of coarse outlines: whatever numbers stand there, they are
come to in the same places (`Operation.Offers.transfer`).  A shape is made only of integers, so
there are numbers in those places when some of the integers are replaced; and numbers are refused
if a truth value is among them (`Shape.construct_of_truthValue`). -/
namespace TensorShape

variable {operation operation' : Operation} {run run' : Run} {result : Result}

/-! ## Numbers as dimensions -/

/-- A refusal with a code. -/
def RefusedWith {α : Type} (code : Code) (result : Except Failure α) : Prop :=
  ∃ cause, result = .error (.rejected cause) ∧ cause.code = code

namespace Value

/-- Whether a value is a number: a truth value, an integer or what stands for one. -/
def isNumber : Value → Bool
  | bool _ => true
  | int _ => true
  | index _ _ _ => true
  | _ => false

/-- What is left of a number in a coarse outline is an integer. -/
theorem isNumber_iff {v : Value} : v.isNumber = true ↔ ∃ n, v.outline .coarse = .int n := by
  cases v <;> simp [isNumber, outline, Grain.truth]

theorem isNumber_of_integer? {v : Value} {n : Int} (h : v.integer? = some n) :
    v.isNumber = true := by
  cases v <;> first | rfl | cases h

theorem isNumber_congr {v w : Value} (same : v.outline .coarse = w.outline .coarse) :
    v.isNumber = w.isNumber := by
  rw [Bool.eq_iff_iff, isNumber_iff, isNumber_iff, same]

/-- A number that is no integer is a truth value. -/
theorem eq_bool_of_isNumber {v : Value} (number : v.isNumber = true) (none : v.integer? = none) :
    ∃ b, v = .bool b := by
  cases v with
  | bool b => exact ⟨b, rfl⟩
  | int n => cases none
  | index object compares n => cases none
  | _ => cases number

/-- An integer that is too long to be printed is left as it is. -/
theorem integer?_of_coarse {v w : Value} (same : v.outline .coarse = w.outline .coarse) {n : Int}
    (integer : v.integer? = some n) (long : Decimal.fits n = false) : w.integer? = some n := by
  have kept {m : Int} (h : Decimal.fits m = false) : Grain.coarse.whole m = m := by
    rw [Grain.whole, h]
    exact if_neg Bool.false_ne_true
  have outlined : w.outline .coarse = .int n := by
    rw [← same]
    cases v with
    | int m | index _ _ m =>
      cases integer
      exact congrArg int (kept long)
    | _ => cases integer
  cases w with
  | int m | index _ _ m =>
    have left : Grain.coarse.whole m = n := Value.int.inj outlined
    have long' : Decimal.fits m = false := by rw [← Grain.coarse.fits_whole m, left, long]
    rw [kept long'] at left
    exact congrArg some left
  | bool b =>
    cases outlined
    cases long
  | _ => cases outlined

theorem not_declaredIterable_of_isNumber {v : Value} (number : v.isNumber = true) :
    v.isDeclaredIterable = false := by
  cases v <;> first | rfl | cases number

/-- No integer among some values is too long to be printed. -/
def Short (values : List Value) : Prop :=
  ∀ v ∈ values, ∀ n, v.integer? = some n → Decimal.fits n = true

/-- Numbers that are not too long are written without drawing anything. -/
theorem writeItems_numbers (live : Source → Draw String) {values : List Value}
    (numbers : ∀ v ∈ values, v.isNumber = true) (short : Short values) :
    ∃ forms, writeItems live values = pure forms := by
  induction values with
  | nil => exact ⟨[], rfl⟩
  | cons v rest ih =>
    obtain ⟨number, others⟩ := List.forall_mem_cons.mp numbers
    obtain ⟨fits, shorts⟩ := List.forall_mem_cons.mp short
    obtain ⟨forms, same⟩ := ih others shorts
    have written : ∃ form, writeWith live v = pure form := by
      cases v with
      | int n =>
        have fit : Decimal.Fit [n] := List.forall_mem_singleton.mpr (fits n rfl)
        exact ⟨_, by rw [writeWith, Fault.showing_of_fit fit]; rfl⟩
      | bool | index => exact ⟨_, rfl⟩
      | _ => cases number
    obtain ⟨form, first⟩ := written
    exact ⟨form :: forms, by rw [writeItems, first, same]; rfl⟩

theorem write_tuple_numbers {values : List Value} (numbers : ∀ v ∈ values, v.isNumber = true)
    (short : Short values) (cursors : List Source) :
    ∃ form, (tuple values).write cursors = (.ok form, cursors) := by
  rw [write, bind_of_ok (Draw.supply_run cursors)]
  obtain ⟨forms, same⟩ := writeItems_numbers
    (fun source => viewInPrint <$> writeDrawn (Draw.total cursors + 1) source) numbers short
  refine ⟨Sequence.asTuple forms, ?_⟩
  rw [writeWith, same]
  rfl

end Value

namespace Shape

variable {values : List Value} {layout : Value}

theorem not_allFit_of_bool {b : Bool} (among : .bool b ∈ values) :
    ¬ ∃ dimensions, AllFit values dimensions := by
  rintro ⟨dimensions, fit⟩
  have integers := List.mem_map_of_mem (f := Value.integer?) among
  rw [fit.integers] at integers
  obtain ⟨d, -, integer⟩ := List.mem_map.mp integers
  cases integer

/-- A rejection comes out as one if a record that cannot be written is of no concern, or if this one
can be written. -/
theorem Refused.rejected_of_heard {cause : Cause} {run : Run}
    {outcome : Except Failure Shape × Run}
    (h : Refused values layout run (.rejected cause) outcome)
    (heard : run.logging ≠ .strict ∨ ∃ text after,
      refusalText values layout cause run.cursors = (.ok text, after)) :
    outcome.1 = .error (.rejected cause) := by
  rcases heard with deaf | ⟨text, after, composed⟩
  · exact h.rejected deaf
  · cases h with
    | reported => rfl
    | unwritable reported => cases (reported.of_ok composed).1

/-- Numbers with a truth value among them are refused.  If the refusal has to be written, that has
to succeed. -/
theorem construct_of_truthValue {b : Bool} (among : .bool b ∈ values)
    (bounded : ∀ v ∈ values, ∀ n, v.integer? = some n → Decimal.fits n = false → -1 ≤ n) {run : Run}
    (heard : run.logging ≠ .strict ∨ (∀ v ∈ values, v.isNumber = true) ∧ Value.Short values ∧
      ∃ form after, layout.write run.cursors = (.ok form, after)) :
    RefusedWith .invalidShape (construct values layout run).1 := by
  rcases allFit_or_misfit values with
    ⟨dimensions, fit⟩ | ⟨fitting, v, rest, failure, rfl, fit, misfit⟩
  · exact absurd ⟨dimensions, fit⟩ (not_allFit_of_bool among)
  obtain ⟨cause, rfl⟩ : ∃ cause, failure = .rejected cause := by
    cases misfit with
    | tooLong integer below long =>
      have := bounded v (by simp) _ integer long
      omega
    | _ => exact ⟨_, rfl⟩
  obtain ⟨outcome, refused⟩ := exists_refused (fitting ++ v :: rest) layout cause run
  rw [construct_of_misfit fit misfit refused]
  refine ⟨cause, refused.rejected_of_heard (heard.imp id ?_), misfit.reported.1⟩
  rintro ⟨numbers, short, form, after, second⟩
  obtain ⟨shown, first⟩ := Value.write_tuple_numbers numbers short run.cursors
  exact ⟨_, after, refusalText_of_write first second cause⟩

end Shape

namespace Operation

/-- Whether an operation makes a shape of values that it is handed. -/
def isConstructor : Operation → Bool
  | construct _ _ => true
  | fromPairs _ => true
  | ofTensor _ _ => true
  | _ => false

@[simp] theorem isConstructor_outline (g : Grain) (operation : Operation) :
    (operation.outline g).isConstructor = operation.isConstructor := by
  cases operation <;> rfl

/-- What becomes of the values that are offered becomes of the operation. -/
theorem Offers.run_eq {values : List Value} {layout : Value} {checked : Run}
    (constructor : operation.isConstructor = true)
    (offered : operation.Offers run values layout checked) :
    operation.run run
      = (do return .value (.shape (← Shape.construct values layout)) : Eval Result) checked := by
  cases offered with
  | construct offered =>
    rw [Operation.run, bind_apply, Shape.ofArguments_of_offered offered, bind_apply]
  | fromPairs done =>
    rw [Operation.run, Shape.ofPairs, bind_apply, bind_of_ok done, Shape.ofParts,
      Shape.ofArguments_tuple, bind_apply]
  | ofTensor done =>
    rw [Operation.run, Shape.ofTensor, bind_apply, bind_of_ok done, bind_apply]
  | _ => cases constructor

/-- To come to the values that are offered adds nothing to the log. -/
theorem Offers.sameLog {values : List Value} {layout : Value} {checked : Run}
    (constructor : operation.isConstructor = true)
    (offered : operation.Offers run values layout checked) : run.SameLog checked := by
  cases offered with
  | construct offered => exact offered.sameLog
  | fromPairs done =>
    exact Eval.QuietSuccess.eachItem Shape.quietSuccess_splitPair _ run _ checked done
  | ofTensor done => exact (Eval.Silent.items _).quietSuccess run _ checked done
  | _ => cases constructor

/-- What makes a shape of values has come to check them, and all of them fit. -/
theorem offers_of_ok (constructor : operation.isConstructor = true)
    (ok : (operation.run run).1 = .ok result) : ∃ values layout checked dimensions,
      operation.Offers run values layout checked ∧ Shape.AllFit values dimensions := by
  have offered : ∃ values layout checked, operation.Offers run values layout checked := by
    cases operation with
    | construct arguments layout =>
      rcases Shape.offered_or_silent arguments layout run with
        ⟨values, layout', checked, offered⟩ | ⟨failure, after, failed, -, -⟩
      · exact ⟨values, layout', checked, .construct offered⟩
      · rw [Operation.run, bind_of_error failed] at ok
        cases ok
    | fromPairs v =>
      rcases done : Eval.eachItem Shape.splitPair v run with ⟨failure | parts, checked⟩
      · rw [Operation.run, Shape.ofPairs, bind_apply, bind_of_error done] at ok
        cases ok
      · exact ⟨_, _, checked, .fromPairs done⟩
    | ofTensor tensor layout =>
      cases tensor with
      | tensor object v =>
        rcases done : Eval.items v run with ⟨failure | values, checked⟩
        · rw [Operation.run, Shape.ofTensor, bind_apply, bind_of_error done] at ok
          cases ok
        · exact ⟨values, layout, checked, .ofTensor done⟩
      | _ => cases ok
    | _ => cases constructor
  obtain ⟨values, layout, checked, offered⟩ := offered
  by_cases fit : ∃ dimensions, Shape.AllFit values dimensions
  · obtain ⟨dimensions, fit⟩ := fit
    exact ⟨values, layout, checked, dimensions, offered, fit⟩
  · obtain ⟨failure, failed⟩ := Shape.construct_fails fit layout checked
    rw [offered.run_eq constructor, bind_fst_of_error failed] at ok
    cases ok

end Operation

/-! ## The places of dimensions -/

variable {g : Grain}

theorem Value.eq_absent_of_outline {v : Value} (h : v.outline g = .absent) : v = .absent := by
  cases v with
  | absent => rfl
  | bool b => cases g <;> cases h
  | _ => cases h

theorem Value.eq_text_of_outline {v : Value} {t : Text} (h : v.outline g = .text t) :
    v = .text t := by
  cases v with
  | text u => exact h
  | bool b => cases g <;> cases h
  | _ => cases h

theorem Value.eq_shape_of_outline {v : Value} {t : Shape} (h : v.outline g = .shape t) :
    ∃ s, v = .shape s := by
  cases v with
  | shape s => exact ⟨s, rfl⟩
  | bool b => cases g <;> cases h
  | _ => cases h

/-- What gives results gives results with the same outlines in the place of what has the same
outline. -/
theorem Eval.exists_of_coupled {α : Type} {h : α → α} {Q : α → Prop} {work work' common : Eval α}
    (first : Eval.Coupled g (fun a a' => a' = h a ∧ Q a) work common)
    (second : Eval.Coupled g (fun a a' => a' = h a ∧ Q a) work' common)
    (cursors : Run.SameOutline g run run') {a : α}
    {after : Run} (done : work run = (.ok a, after)) :
    ∃ a' after', work' run' = (.ok a', after') ∧ h a = h a' ∧ (Q a ∧ Q a') ∧
      Run.SameOutline g after after' := by
  obtain ⟨states, results⟩ := Eval.coupled_join first second cursors
  rcases done' : work' run' with ⟨result', after'⟩
  rw [done, done'] at states results
  cases results with
  | ok same =>
    obtain ⟨c, ⟨rfl, given⟩, same, given'⟩ := same
    exact ⟨_, after', rfl, same, ⟨given, given'⟩, states⟩

/-- Two offers of dimensions and a layout with the same coarse outlines. -/
structure Shape.Likened (values : List Value) (layout : Value) (checked : Run)
    (values' : List Value) (layout' : Value) (checked' : Run) : Prop where
  printed : Upkeep.printed.Held layout
  printed' : Upkeep.printed.Held layout'
  values : values.map (Value.outline .coarse) = values'.map (Value.outline .coarse)
  layout : layout.outline .coarse = layout'.outline .coarse
  cursors : Run.SameOutline .coarse checked checked'

/-- Arguments with the same coarse outlines offer dimensions in the same places, unless a lone
integer has become a truth value. -/
theorem Shape.Offered.transfer {arguments arguments' values : List Value}
    {layout layout' given : Value} {checked : Run}
    (offered : Shape.Offered arguments layout run values given checked)
    (same : arguments.map (Value.outline .coarse) = arguments'.map (Value.outline .coarse))
    (sameLayout : layout.outline .coarse = layout'.outline .coarse)
    (held : (Operation.construct arguments layout).Holds Upkeep.printed.Held)
    (held' : (Operation.construct arguments' layout').Holds Upkeep.printed.Held)
    (cursors : Run.SameOutline .coarse run run') :
    (∃ b, arguments' = [.bool b]) ∨ ∃ values' given' checked',
      Shape.Offered arguments' layout' run' values' given' checked' ∧
        Shape.Likened values given checked values' given' checked' := by
  cases offered with
  | arguments many =>
    by_cases lone : ∃ w, arguments' = [w] ∧ w.integer? = none
    · obtain ⟨w, rfl, none⟩ := lone
      obtain ⟨v, rfl, likened⟩ := List.map_eq_singleton_iff.mp same
      obtain ⟨n, integer⟩ := many v rfl
      have number : w.isNumber = true := by
        rw [← Value.isNumber_congr likened, Value.isNumber_of_integer? integer]
      obtain ⟨b, rfl⟩ := Value.eq_bool_of_isNumber number none
      exact .inl ⟨b, rfl⟩
    · refine .inr ⟨arguments', layout', run', .arguments fun w e => ?_, held.2, held'.2, same,
        sameLayout, cursors⟩
      cases integer : w.integer? with
      | some n => exact ⟨n, rfl⟩
      | none => exact absurd ⟨w, e, integer⟩ lone
  | @copied s =>
    obtain ⟨w, rfl, likened⟩ := List.map_eq_singleton_iff.mp same.symm
    obtain ⟨s', rfl⟩ := Value.eq_shape_of_outline likened
    obtain rfl := Value.eq_absent_of_outline sameLayout.symm
    have passes := congrArg Value.pass? likened
    rw [Value.pass?_outline, Value.pass?_outline] at passes
    have values := congrArg Pass.items (Option.some.inj passes)
    have tags : s'.layout = s.layout := (Shape.mk.inj (Value.shape.inj likened)).2
    exact .inr ⟨_, _, run', .copied, Upkeep.printed_tuple (Upkeep.printed_layout s),
      Upkeep.printed_tuple (Upkeep.printed_layout s'), values.symm,
      by rw [Value.layout, Value.layout, tags], cursors⟩
  | @items v _ _ _ _ none text iterable copies gone =>
    obtain ⟨w, rfl, likened⟩ := List.map_eq_singleton_iff.mp same.symm
    have none' : w.integer? = Option.none := by
      cases integer : w.integer? with
      | none => rfl
      | some n =>
        -- an integer would stand where there is something that can be gone through
        have number := Value.isNumber_of_integer? integer
        rw [Value.isNumber_congr likened] at number
        rw [Value.not_declaredIterable_of_isNumber number] at iterable
        cases iterable
    have text' (t : Text) (e : w = .text t) : False := by
      subst e
      exact text t (Value.eq_text_of_outline likened.symm)
    have iterable' : w.isDeclaredIterable = true := by
      rw [← w.isDeclaredIterable_outline .coarse, likened, v.isDeclaredIterable_outline, iterable]
    have copies' (s : Shape) (e : w = .shape s) : layout' ≠ .absent := by
      subst e
      rintro rfl
      obtain ⟨s, rfl⟩ := Value.eq_shape_of_outline likened.symm
      exact copies s rfl (Value.eq_absent_of_outline sameLayout)
    have first := Eval.coupled_items (g := .coarse) (List.forall_mem_singleton.mp held.1)
    have second := Eval.coupled_items (g := .coarse) (List.forall_mem_singleton.mp held'.1)
    rw [likened] at second
    obtain ⟨items', checked', done, values, -, states⟩ :=
      Eval.exists_of_coupled first second cursors gone
    exact .inr ⟨items', layout', checked', .items none' text' iterable' copies' done, held.2,
      held'.2, values, sameLayout, states⟩

/-- Operations with the same coarse outline offer dimensions in the same places, unless a lone
integer has become a truth value. -/
theorem Operation.Offers.transfer {values : List Value} {layout : Value} {checked : Run}
    (constructor : operation.isConstructor = true)
    (offered : operation.Offers run values layout checked)
    (same : operation.outline .coarse = operation'.outline .coarse)
    (held : operation.Holds Upkeep.printed.Held) (held' : operation'.Holds Upkeep.printed.Held)
    (cursors : Run.SameOutline .coarse run run') :
    (∃ b layout', operation' = .construct [.bool b] layout') ∨ ∃ values' layout' checked',
      operation'.Offers run' values' layout' checked' ∧
        Shape.Likened values layout checked values' layout' checked' := by
  cases offered with
  | construct offered =>
    cases operation' with
    | construct arguments' layout' =>
      obtain ⟨same, sameLayout⟩ := Operation.construct.inj same
      rcases offered.transfer same sameLayout held held' cursors with
        ⟨b, rfl⟩ | ⟨values', given', checked', offered', likened⟩
      · exact .inl ⟨b, layout', rfl⟩
      · exact .inr ⟨values', given', checked', .construct offered', likened⟩
    | _ => cases same
  | @fromPairs v parts checked done =>
    cases operation' with
    | fromPairs w =>
      have step (axis : Nat) (v : Value) := Shape.coupled_splitPair (g := .coarse) axis (v := v)
      have second := Eval.coupled_eachItem_map step held'
      rw [← Operation.fromPairs.inj same] at second
      obtain ⟨parts', checked', done', parts, ⟨tags, tags'⟩, states⟩ :=
        Eval.exists_of_coupled (Eval.coupled_eachItem_map step held) second cursors done
      refine .inr ⟨_, _, checked', .fromPairs done',
        Upkeep.printed_tuple (List.forall_mem_map.mpr fun p mem => (tags p mem).2),
        Upkeep.printed_tuple (List.forall_mem_map.mpr fun p mem => (tags' p mem).2), ?_, ?_, states⟩
      · have firsts := congrArg (List.map Prod.fst) parts
        rw [List.map_map, List.map_map] at firsts ⊢
        exact firsts
      · have seconds := congrArg (List.map Prod.snd) parts
        rw [List.map_map, List.map_map] at seconds
        rw [Value.outline_tuple, Value.outline_tuple, List.map_map, List.map_map]
        exact congrArg Value.tuple seconds
    | _ => cases same
  | @ofTensor object v layout values checked done =>
    cases operation' with
    | ofTensor tensor layout' =>
      obtain ⟨same, sameLayout⟩ := Operation.ofTensor.inj same
      cases tensor with
      | tensor object' w =>
        have first := Eval.coupled_items (g := .coarse)
          ((Upkeep.printed.hereditary.tensor object v).mp held.1)
        have second := Eval.coupled_items (g := .coarse)
          ((Upkeep.printed.hereditary.tensor object' w).mp held'.1)
        rw [← (Value.tensor.inj same).2] at second
        obtain ⟨values', checked', done', likened, -, states⟩ :=
          Eval.exists_of_coupled first second cursors done
        exact .inr ⟨values', layout', checked', .ofTensor done', held.2, held'.2, likened,
          sameLayout, states⟩
      | _ => cases same
    | _ => cases same
  | _ => cases constructor

/-! ## The refusal -/

namespace Shape

variable {values : List Value} {layout layout' : Value} {checked checked' : Run}

/-- Only tags pass for entries of a layout. -/
theorem eq_tags_of_traverse {items : List Value} {tags : Layout} {position : Nat} {after : Run}
    (h : Eval.traverse tagEntry position items run = (.ok tags, after)) :
    items = tags.map .tag := by
  induction items generalizing position run tags with
  | nil => cases h; rfl
  | cons v rest ih =>
    obtain ⟨tag, between, first, h⟩ := bind_eq_ok_iff.mp h
    obtain ⟨others, last, later, h⟩ := bind_eq_ok_iff.mp h
    cases h
    by_cases tagged : ∃ t, v = .tag t
    · obtain ⟨t, rfl⟩ := tagged
      cases first
      rw [ih later, List.map_cons]
    · rw [tagEntry_of_untagged position fun t e => tagged ⟨t, e⟩] at first
      cases first

/-- Where a shape is made the layout has been read. -/
theorem layoutFrom_of_construct {dimensions : List Int} {s : Shape}
    (fit : AllFit values dimensions) (ok : (construct values layout run).1 = .ok s) :
    ∃ tags after, layoutFrom dimensions.length layout run = (.ok tags, after) := by
  match read : layoutFrom dimensions.length layout run with
  | (.ok tags, after) => exact ⟨tags, after, rfl⟩
  | (.error failure, after) =>
    have failed : assemble values layout run = (.error failure, after) := by
      rw [assemble_of_allFit fit, bind_of_error read]
    cases failure with
    | rejected cause =>
      obtain ⟨outcome, refused⟩ := exists_refused values layout cause after
      obtain ⟨failure, same⟩ := refused.failed
      rw [construct_of_refused failed refused, same] at ok
      cases ok
    | _ =>
      rw [construct_of_unrejected failed nofun] at ok
      cases ok

/-- A tuple that has been read as a layout can be written. -/
theorem writable_of_construct {items : List Value} {dimensions : List Int} {s : Shape}
    (fit : AllFit values dimensions) (ok : (construct values (.tuple items) run).1 = .ok s) :
    (Value.tuple items).Writable := by
  obtain ⟨tags, after, read⟩ := layoutFrom_of_construct fit ok
  change Eval.eachItem tagEntry (.tuple items) run = _ at read
  have held : (Value.tuple items).pass? = some (.ofList items) := rfl
  rw [Eval.eachItem_of_pass held] at read
  obtain ⟨tags', between, traversed, -⟩ := bind_eq_ok_iff.mp read
  have tagged : items = tags'.map .tag := eq_tags_of_traverse traversed
  rw [tagged]
  exact Value.writable_of_eq_pure (Value.write_tuple_tags tags')

/-- Where dimensions that fit stand there are numbers. -/
theorem Likened.numbers {values' : List Value} {dimensions : List Int}
    (likened : Likened values layout checked values' layout' checked')
    (fit : AllFit values dimensions) : ∀ v ∈ values', v.isNumber = true := by
  intro v held
  have outlined := List.mem_map_of_mem (f := Value.outline .coarse) held
  rw [← likened.values] at outlined
  obtain ⟨w, found, same⟩ := List.mem_map.mp outlined
  have integer := List.mem_map_of_mem (f := Value.integer?) found
  rw [fit.integers] at integer
  obtain ⟨d, -, integer⟩ := List.mem_map.mp integer
  rw [← Value.isNumber_congr same, Value.isNumber_of_integer? integer.symm]

/-- No integer that is too long is brought in by another of the same outline. -/
theorem Likened.integer {values' : List Value}
    (likened : Likened values layout checked values' layout' checked') {v : Value} {n : Int}
    (held : v ∈ values') (integer : v.integer? = some n) (long : Decimal.fits n = false) :
    ∃ w ∈ values, w.integer? = some n := by
  have outlined := List.mem_map_of_mem (f := Value.outline .coarse) held
  rw [← likened.values] at outlined
  obtain ⟨w, found, same⟩ := List.mem_map.mp outlined
  exact ⟨w, found, Value.integer?_of_coarse same.symm integer long⟩

theorem Likened.short {values' : List Value}
    (likened : Likened values layout checked values' layout' checked')
    (short : Value.Short values) : Value.Short values' := by
  intro v held n integer
  cases fits : Decimal.fits n with
  | true => rfl
  | false =>
    obtain ⟨w, found, integer⟩ := likened.integer held integer fits
    cases fits.symm.trans (short w found n integer)

theorem AllFit.bounded_of_mem {dimensions : List Int} (fit : AllFit values dimensions) {v : Value}
    {n : Int} (held : v ∈ values) (integer : v.integer? = some n) : -1 ≤ n := by
  have among := List.mem_map_of_mem (f := Value.integer?) held
  rw [fit.integers, integer] at among
  obtain ⟨d, held, same⟩ := List.mem_map.mp among
  exact Option.some.inj same ▸ fit.bounded d held

/-- A layout can be written just if one with the same coarse outline can. -/
theorem Likened.written {values' : List Value}
    (likened : Likened values layout checked values' layout' checked')
    (written : ∃ form after, layout.write checked.cursors = (.ok form, after)) :
    ∃ form after, layout'.write checked'.cursors = (.ok form, after) := by
  obtain ⟨form, after, done⟩ := written
  have first := Value.writes_write (g := .coarse) likened.printed
  have second := Value.writes_write (g := .coarse) likened.printed'
  rw [← likened.layout] at second
  have related := likened.cursors
  obtain ⟨-, results⟩ := first.join second ⟨rfl, related.printed⟩
    ⟨related.cursors, related.printed'⟩
  rcases done' : layout'.write checked'.cursors with ⟨result', after'⟩
  rw [done, done'] at results
  cases results with
  | ok _ => exact ⟨_, after', rfl⟩

end Shape

/-- The tags of pairs that make a shape can be written. -/
theorem Operation.Offers.written_fromPairs {v layout : Value} {values : List Value} {checked : Run}
    {dimensions : List Int} (offered : (Operation.fromPairs v).Offers run values layout checked)
    (fit : Shape.AllFit values dimensions) (ok : ((Operation.fromPairs v).run run).1 = .ok result) :
    ∃ form after, layout.write checked.cursors = (.ok form, after) := by
  rw [offered.run_eq rfl] at ok
  cases offered with
  | @fromPairs _ parts _ done =>
    match made : Shape.construct (parts.map Prod.fst) (.tuple (parts.map Prod.snd)) checked with
    | (.ok s, _) => exact Shape.writable_of_construct fit (congrArg Prod.fst made) checked.cursors
    | (.error _, _) => rw [bind_of_error made] at ok; cases ok

/-- No truth value passes in the place of a dimension when an operation that has made a shape is
handed other numbers in the same places. -/
inductive Operation.Strict (operation : Operation) (run : Run) (operation' : Operation)
    (run' : Run) : Prop
  /-- A truth value alone is no dimension, -/
  | lone {b layout'} : operation' = .construct [.bool b] layout' →
    RefusedWith .invalidShape (operation'.run run').1 → Strict operation run operation' run'
  /-- and none is among several.  It is refused as one, unless the caller wants to hear of a record
  that cannot be written, because an integer is too long or for the layout; the tags of pairs always
  can be. -/
  | among {values layout checked values' layout' checked'} :
    operation.Offers run values layout checked → operation'.Offers run' values' layout' checked' →
    Shape.Likened values layout checked values' layout' checked' →
    (∀ b, .bool b ∈ values' → (∃ failure, (operation'.run run').1 = .error failure) ∧
      ((run.logging ≠ .strict ∨ Value.Short values ∧ ((∃ v, operation = .fromPairs v) ∨
        ∃ form after, layout.write checked.cursors = (.ok form, after))) →
      RefusedWith .invalidShape (operation'.run run').1)) →
    Strict operation run operation' run'

theorem Operation.strict (constructor : operation.isConstructor = true)
    (ok : (operation.run run).1 = .ok result)
    (same : operation.outline .coarse = operation'.outline .coarse)
    (held : operation.Holds Upkeep.printed.Held) (held' : operation'.Holds Upkeep.printed.Held)
    (cursors : Run.SameOutline .coarse run run') : operation.Strict run operation' run' := by
  obtain ⟨values, layout, checked, dimensions, offered, fit⟩ := offers_of_ok constructor ok
  rcases offered.transfer constructor same held held' cursors with
    ⟨b, layout', rfl⟩ | ⟨values', layout', checked', offered', likened⟩
  · exact .lone rfl ⟨.notDimensions "bool", rfl, rfl⟩
  · refine .among offered offered' likened fun b among => ?_
    have constructor' : operation'.isConstructor = true := by
      rwa [← operation'.isConstructor_outline .coarse, ← same, operation.isConstructor_outline]
    rw [offered'.run_eq constructor']
    refine ⟨?_, fun heard => ?_⟩
    · obtain ⟨failure, failed⟩ :=
        Shape.construct_fails (Shape.not_allFit_of_bool among) layout' checked'
      exact ⟨failure, bind_fst_of_error failed _⟩
    have bounded : ∀ v ∈ values', ∀ n, v.integer? = some n → Decimal.fits n = false → -1 ≤ n := by
      intro v among n integer long
      obtain ⟨w, found, integer⟩ := likened.integer among integer long
      exact fit.bounded_of_mem found integer
    have heard : checked'.logging ≠ .strict ∨ (∀ v ∈ values', v.isNumber = true) ∧
        Value.Short values' ∧ ∃ form after, layout'.write checked'.cursors = (.ok form, after) := by
      refine heard.imp (fun deaf => ?_) ?_
      · rwa [← likened.cursors.logging, (offered.sameLog constructor).logging]
      · rintro ⟨short, ⟨v, rfl⟩ | written⟩
        · exact ⟨likened.numbers fit, likened.short short,
            likened.written (offered.written_fromPairs fit ok)⟩
        · exact ⟨likened.numbers fit, likened.short short, likened.written written⟩
    obtain ⟨cause, failed, code⟩ := Shape.construct_of_truthValue among bounded heard
    exact ⟨cause, bind_fst_of_error failed _, code⟩

/-! ## Axes and bounds -/

namespace Shape

variable (s : Shape) (b : Bool)

theorem misses_bool : s.Misses (.bool b) := ⟨rfl, nofun⟩

theorem locate_bool (query : AxisQuery) (run : Run) :
    ∃ form, s.locate query (.bool b) run
      = (.error (.rejected (.axisOutOfRange query form form s.rank)), run) :=
  ⟨_, locate_of_misses query (s.misses_bool b) rfl rfl⟩

theorem get_bool (run : Run) : RefusedWith .indexOutOfRange (s.get (.bool b) run).1 := by
  obtain ⟨form, refused⟩ := s.locate_bool b .get run
  exact ⟨.axisOutOfRange .get form form s.rank, by rw [get, bind_of_error refused], rfl⟩

/-- A truth value among the axes is refused if those before it are axes. -/
theorem sizeOver_bool {before later : List Value} {v : Value} {n : Int}
    (ok : (s.sizeOver (before ++ v :: later) run).1 = .ok n) :
    RefusedWith .indexOutOfRange (s.sizeOver (before ++ .bool b :: later) run).1 := by
  rw [sizeOver_def (by simp), List.mapM_append] at ok ⊢
  match located : before.mapM (s.locate .size) run with
  | (.error failure, after) =>
    simp only [bind_assoc] at ok
    rw [bind_of_error located] at ok
    cases ok
  | (.ok chosen, between) =>
    obtain ⟨form, refused⟩ := s.locate_bool b .size between
    refine ⟨.axisOutOfRange .size form form s.rank, ?_, rfl⟩
    rw [List.mapM_cons]
    simp only [bind_assoc]
    rw [bind_of_ok located, bind_of_error refused]

theorem boundOf_bool (bound : Bound) (run : Run) :
    ∃ form, s.boundOf bound (.bool b) run
      = (.error (.rejected (.nonIntegerBound bound form form s.rank)), run) := ⟨_, rfl⟩

theorem slice_bool_first (past : Value) (run : Run) :
    RefusedWith .indexOutOfRange (s.slice (.bool b) past run).1 := by
  obtain ⟨form, refused⟩ := s.boundOf_bool b .first run
  exact ⟨.nonIntegerBound .first form form s.rank, by rw [slice, bind_of_error refused], rfl⟩

/-- A truth value is refused as the second bound if the first one is an integer. -/
theorem slice_bool_past {first past : Value} {t : Shape} (ok : (s.slice first past run).1 = .ok t) :
    RefusedWith .indexOutOfRange (s.slice first (.bool b) run).1 := by
  match found : s.boundOf .first first run with
  | (.error failure, after) =>
    rw [slice, bind_of_error found] at ok
    cases ok
  | (.ok n, between) =>
    obtain ⟨form, refused⟩ := s.boundOf_bool b .past between
    refine ⟨.nonIntegerBound .past form form s.rank, ?_, rfl⟩
    rw [slice, bind_of_ok found]
    exact congrArg Prod.fst (bind_of_error refused _)

end Shape
end TensorShape

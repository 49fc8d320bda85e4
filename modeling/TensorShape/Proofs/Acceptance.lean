import TensorShape.Proofs.Quiet
import TensorShape.Proofs.Revalidation

/-! # What the constructor accepts

`Shape.Settled` is the constructor as a list of rules: which values count as the
dimensions (`Offered`), what is wrong with a dimension (`Misfit`), what a layout says
(`LayoutRead`), and what comes of a refusal (`Refused`).  The rules are in the order of
the checks, so of several things that are wrong with the input the one that is reported
is fixed.  Each rule is sound (`Settled.eq`), and for every input there is a rule that
applies (`exists_settled`), so the rules say what the constructor does and no more.

A refusal logs what was refused, if there is a log.  Some values cannot be written, such
as a view that breaks off, and then the record is dropped, or it is the fault met in
writing that comes out (`misfit_not_reported`).  Unless the caller has asked for the
latter a misfit is always reported as one (`misfit_reported`). -/
namespace TensorShape.Shape

/-! ## The rules -/

/-- The values that arguments offer as dimensions, with the layout that goes with them. -/
inductive Offered : List Value → Value → Run → List Value → Value → Run → Prop
  /-- Several arguments, none, or a lone integer are the dimensions themselves. -/
  | arguments {arguments layout run} :
    (∀ v, arguments = [v] → ∃ n, v.integer? = some n) →
    Offered arguments layout run arguments layout run
  /-- A shape without a layout lends its own. -/
  | copied {s run} :
    Offered [.shape s] .absent run (Value.dimensions s) (.tuple (Value.layout s)) run
  /-- A lone argument of another kind is gone through. -/
  | items {v layout run held after} : v.integer? = none → (∀ t, v ≠ .text t) →
    v.isDeclaredIterable = true → (∀ s, v = .shape s → layout ≠ .absent) →
    Eval.items v run = (.ok held, after) →
    Offered [v] layout run held layout after

/-- What is wrong with a value as the dimension of an axis, and what that leads to. -/
inductive Misfit (axis : Nat) : Value → Failure → Prop
  | truthValue {b} : Misfit axis (.bool b) (.rejected (.truthValueDimension axis))
  | nonInteger {v} : v.integer? = none → (∀ b, v ≠ .bool b) →
    Misfit axis v (.rejected (.nonIntegerDimension axis v.typeName))
  | tooSmall {v d} : v.integer? = some d → d < -1 → Decimal.fits d = true →
    Misfit axis v (.rejected (.dimensionTooSmall axis d))
  /-- The refusal of an integer that is too small shows it, if it can be shown. -/
  | tooLong {v d} : v.integer? = some d → d < -1 → Decimal.fits d = false →
    Misfit axis v (.fault .tooManyDigits)

/-- A misfit is reported with its axis. -/
theorem Misfit.reported {axis : Nat} {v : Value} {cause : Cause}
    (h : Misfit axis v (.rejected cause)) :
    cause.code = .invalidShape ∧ cause.data.lookup "axis" = some (.count axis) := by
  cases h <;> exact ⟨rfl, rfl⟩

/-- Going through what holds the dimensions logs nothing. -/
theorem Offered.sameLog {arguments values : List Value} {layout layout' : Value} {run checked : Run}
    (h : Offered arguments layout run values layout' checked) : run.SameLog checked := by
  cases h with
  | arguments | copied => exact .refl
  | items _ _ _ _ held => exact (Eval.Silent.items _).quietSuccess _ _ _ held

/-- A value is or stands for a dimension. -/
def Fits (v : Value) (d : Int) : Prop := v.integer? = some d ∧ -1 ≤ d

/-- The values are or stand for the dimensions. -/
structure AllFit (values : List Value) (dimensions : List Int) : Prop where
  integers : values.map Value.integer? = dimensions.map some
  bounded : ∀ d ∈ dimensions, -1 ≤ d

/-- What a layout says about so many axes. -/
inductive LayoutRead (rank : Nat) (run : Run) : Value → Except Failure Layout × Run → Prop
  /-- Without a layout all tags are unknown. -/
  | absent : LayoutRead rank run .absent (.ok (.replicate rank .unknown), run)
  | spelled {text tags} : text.content.toList = tags.map Tag.char →
    LayoutRead rank run (.text text) (.ok tags, run)
  /-- Text is refused, and the refusal logged, at its first letter that spells no tag. -/
  | stray {text before c after} : text.content.toList = before ++ c :: after →
    (∀ b ∈ before, ∃ tag, Tag.char tag = b) → (∀ tag, Tag.char tag ≠ c) →
    LayoutRead rank run (.text text) (.error (.rejected (.strayLetter text ⟨before.length, c⟩)),
      run.logged [⟨.layout, "rejected layout character " ++ Quoted.quote c.toString⟩])
  | notIterable {layout} : layout ≠ .absent → layout.isIterable = false →
    LayoutRead rank run layout (.error (.fault (.notIterable layout.typeName)), run)
  /-- A view can be gone through only if both of its parts can. -/
  | noSource {layout fault} : (∀ t, layout ≠ .text t) → layout.isIterable = true →
    layout.source = .error fault → LayoutRead rank run layout (.error (.fault fault), run)
  /-- The items of any other value are tags to the end, -/
  | tags {layout source rest between after} {tags : Layout} :
    (∀ t, layout ≠ .text t) → layout.source = .ok source →
    source.Gives run.cursors (tags.map .tag) rest between →
    Draw.next rest between = (.ok none, after) →
    LayoutRead rank run layout (.ok tags, { run with cursors := after })
  /-- or there is a first one that is no tag, and those after it are not drawn, -/
  | untagged {layout source rest between entry left after} {tags : Layout} :
    (∀ t, layout ≠ .text t) → layout.source = .ok source →
    source.Gives run.cursors (tags.map .tag) rest between →
    Draw.next rest between = (.ok (some (entry, left)), after) → (∀ tag, entry ≠ .tag tag) →
    LayoutRead rank run layout
      (.error (.rejected (.untaggedEntry entry.typeName)), { run with cursors := after })
  /-- or a fault ends them. -/
  | brokenOff {layout source rest between fault after} {tags : Layout} :
    (∀ t, layout ≠ .text t) → layout.source = .ok source →
    source.Gives run.cursors (tags.map .tag) rest between →
    Draw.next rest between = (.error fault, after) →
    LayoutRead rank run layout (.error (.fault fault), { run with cursors := after })

/-- What comes of a failure over dimensions and a layout. -/
inductive Refused (dimensions : List Value) (layout : Value) (run : Run) :
    Failure → Except Failure Shape × Run → Prop
  /-- Only rejections are reported. -/
  | fault {fault} : Refused dimensions layout run (.fault fault) (.error (.fault fault), run)
  | reported {cause after} :
    Eval.Reported .shape (refusalText dimensions layout cause) run none after →
    Refused dimensions layout run (.rejected cause) (.error (.rejected cause), after)
  /-- The dimensions or the layout cannot be written, and the caller hears of that alone. -/
  | unwritable {cause fault after} :
    Eval.Reported .shape (refusalText dimensions layout cause) run (some fault) after →
    Refused dimensions layout run (.rejected cause) (.error (.fault fault), after)

/-- What comes of constructing a shape from arguments and a layout. -/
inductive Settled (arguments : List Value) (layout : Value) (run : Run) :
    Except Failure Shape × Run → Prop
  | notDimensions {v} : arguments = [v] → v.integer? = none →
    ((∃ t, v = .text t) ∨ v.isDeclaredIterable = false) →
    Settled arguments layout run (.error (.rejected (.notDimensions v.typeName)), run)
  | brokenOff {v failure after} : arguments = [v] → v.integer? = none → (∀ t, v ≠ .text t) →
    v.isDeclaredIterable = true → Eval.items v run = (.error failure, after) →
    Settled arguments layout run (.error failure, after)
  /-- The first dimension that does not fit is refused, whatever the layout. -/
  | misfit {fitting v rest layout' between failure outcome} :
    Offered arguments layout run (fitting ++ v :: rest) layout' between →
    (∀ w ∈ fitting, ∃ d, Fits w d) → Misfit fitting.length v failure →
    Refused (fitting ++ v :: rest) layout' between failure outcome →
    Settled arguments layout run outcome
  | badLayout {values dimensions layout' between cause after outcome} :
    Offered arguments layout run values layout' between → AllFit values dimensions →
    LayoutRead dimensions.length between layout' (.error (.rejected cause), after) →
    Refused values layout' after (.rejected cause) outcome → Settled arguments layout run outcome
  | layoutFault {values dimensions layout' between fault after} :
    Offered arguments layout run values layout' between → AllFit values dimensions →
    LayoutRead dimensions.length between layout' (.error (.fault fault), after) →
    Settled arguments layout run (.error (.fault fault), after)
  | unequalLengths {values dimensions layout' between tags after outcome} :
    Offered arguments layout run values layout' between → AllFit values dimensions →
    LayoutRead dimensions.length between layout' (.ok tags, after) →
    tags.length ≠ dimensions.length →
    Refused values layout' after (.rejected (.unequalLengths dimensions.length tags.length))
      outcome →
    Settled arguments layout run outcome
  | accepted {values dimensions layout' between tags after} :
    Offered arguments layout run values layout' between → AllFit values dimensions →
    LayoutRead dimensions.length between layout' (.ok tags, after) →
    tags.length = dimensions.length →
    Settled arguments layout run (.ok ⟨dimensions, tags⟩, after)

/-! ## Dimensions -/

theorem dimensionFrom_of_fits (axis : Nat) {v : Value} {d : Int} (h : Fits v d) :
    dimensionFrom axis v = .ok d := by
  obtain ⟨integer, bounded⟩ := h
  have stays : ¬ d < Extent.unknownMark := Int.not_lt.mpr bounded
  cases v <;> cases integer <;> simp [dimensionFrom, Value.integer?, stays]

theorem dimensionFrom_of_misfit {axis : Nat} {v : Value} {failure : Failure}
    (h : Misfit axis v failure) : dimensionFrom axis v = .error failure := by
  cases h with
  | truthValue => rfl
  | nonInteger none notBool =>
    cases v with
    | bool b => exact absurd rfl (notBool b)
    | _ => simp [dimensionFrom, none]
  | tooSmall integer below fit =>
    have refuse : _ < Extent.unknownMark := below
    have shown (cause : Cause) : Failure.showing [_] cause = .rejected cause :=
      Failure.showing_of_fit (List.forall_mem_singleton.mpr fit)
    cases v <;> cases integer <;> simp [dimensionFrom, Value.integer?, refuse, shown]
  | tooLong integer below long =>
    have refuse : _ < Extent.unknownMark := below
    have unshown (cause : Cause) : Failure.showing [_] cause = .fault .tooManyDigits :=
      Failure.showing_of_not_fit fun fit => by
        cases long.symm.trans (fit _ (List.mem_singleton_self _))
    cases v <;> cases integer <;> simp [dimensionFrom, Value.integer?, refuse, unshown]

theorem fits_or_misfit (axis : Nat) (v : Value) :
    (∃ d, Fits v d) ∨ ∃ failure, Misfit axis v failure := by
  by_cases h : ∃ b, v = .bool b
  · obtain ⟨b, rfl⟩ := h
    exact .inr ⟨_, .truthValue⟩
  match integer : v.integer? with
  | none => exact .inr ⟨_, .nonInteger integer fun b e => h ⟨b, e⟩⟩
  | some d =>
    by_cases below : d < -1
    · match fit : Decimal.fits d with
      | true => exact .inr ⟨_, .tooSmall integer below fit⟩
      | false => exact .inr ⟨_, .tooLong integer below fit⟩
    · exact .inl ⟨d, integer, Int.not_lt.mp below⟩

theorem dimensionsFrom_of_allFit (axis : Nat) {values : List Value} {dimensions : List Int}
    (h : AllFit values dimensions) : dimensionsFrom axis values = .ok dimensions := by
  obtain ⟨integers, bounded⟩ := h
  induction values generalizing axis dimensions with
  | nil => cases dimensions <;> cases integers; rfl
  | cons v rest ih =>
    cases dimensions with
    | nil => cases integers
    | cons d ds =>
      obtain ⟨integer, integers⟩ := List.cons.inj integers
      obtain ⟨first, bounded⟩ := List.forall_mem_cons.mp bounded
      rw [dimensionsFrom, dimensionFrom_of_fits axis ⟨integer, first⟩,
        ih (axis + 1) integers bounded]
      rfl

theorem dimensionsFrom_of_misfit (axis : Nat) {fitting : List Value} {v : Value}
    (rest : List Value) {failure : Failure} (fit : ∀ w ∈ fitting, ∃ d, Fits w d)
    (h : Misfit (axis + fitting.length) v failure) :
    dimensionsFrom axis (fitting ++ v :: rest) = .error failure := by
  induction fitting generalizing axis with
  | nil =>
    have refused : dimensionFrom axis v = .error failure := dimensionFrom_of_misfit h
    rw [List.nil_append, dimensionsFrom, refused]
    rfl
  | cons w fitting ih =>
    obtain ⟨⟨d, fits⟩, fit⟩ := List.forall_mem_cons.mp fit
    -- the axis of the misfit is counted from the first value, not from here
    have h : Misfit (axis + 1 + fitting.length) v failure := by
      rwa [Nat.add_assoc, Nat.add_comm 1]
    rw [List.cons_append, dimensionsFrom, dimensionFrom_of_fits axis fits, ih (axis + 1) fit h]
    rfl

theorem AllFit.cons {v : Value} {values : List Value} {d : Int} {ds : List Int} (first : Fits v d)
    (rest : AllFit values ds) : AllFit (v :: values) (d :: ds) where
  integers := by rw [List.map_cons, List.map_cons, first.1, rest.integers]
  bounded := List.forall_mem_cons.mpr ⟨first.2, rest.bounded⟩

/-- Either all values fit, or there is a first one that does not. -/
theorem allFit_or_misfit (values : List Value) : (∃ dimensions, AllFit values dimensions) ∨
    ∃ fitting v rest failure, values = fitting ++ v :: rest ∧ (∀ w ∈ fitting, ∃ d, Fits w d) ∧
      Misfit fitting.length v failure := by
  -- the axis is counted along, so the statement is proved for every count to start from
  suffices ∀ axis, (∃ dimensions, AllFit values dimensions) ∨
      ∃ fitting v rest failure, values = fitting ++ v :: rest ∧ (∀ w ∈ fitting, ∃ d, Fits w d) ∧
        Misfit (axis + fitting.length) v failure by simpa using this 0
  induction values with
  | nil => exact fun _ => .inl ⟨[], rfl, nofun⟩
  | cons v rest ih =>
    intro axis
    rcases fits_or_misfit axis v with ⟨d, fits⟩ | ⟨failure, misfit⟩
    · rcases ih (axis + 1) with ⟨ds, fit⟩ | ⟨fitting, w, rest, failure, rfl, fit, misfit⟩
      · exact .inl ⟨d :: ds, fit.cons fits⟩
      · refine .inr ⟨v :: fitting, w, rest, failure, rfl, ?_, ?_⟩
        · exact List.forall_mem_cons.mpr ⟨⟨d, fits⟩, fit⟩
        · rwa [List.length_cons, Nat.add_comm fitting.length, ← Nat.add_assoc]
    · exact .inr ⟨[], v, rest, failure, rfl, nofun, misfit⟩

/-! ## Layouts -/

/-- What is neither missing nor text holds the tags. -/
theorem layoutFrom_eq_eachItem (rank : Nat) {layout : Value} (given : layout ≠ .absent)
    (text : ∀ t, layout ≠ .text t) : layoutFrom rank layout = Eval.eachItem tagEntry layout := by
  cases layout with
  | absent => exact absurd rfl given
  | text t => exact absurd rfl (text t)
  | _ => rfl

variable {layout : Value} {source rest : Source} {tags : Layout} {run last : Run}
  {between : List Source}

/-- Going through a layout whose first entries are tags comes to where these end. -/
theorem layoutFrom_of_gives (rank : Nat) (result : Except Failure Layout)
    (text : ∀ t, layout ≠ .text t) (found : layout.source = .ok source)
    (given : source.Gives run.cursors (tags.map .tag) rest between)
    (ended : ∀ bound position, Eval.drain tagEntry (bound + 1) position rest
      { run with cursors := between } = (result, last)) :
    layoutFrom rank layout run = (result.map (tags ++ ·), last) := by
  have present : layout ≠ .absent := by rintro rfl; cases found
  have read := Eval.eachItem_of_gives (f := tagEntry) (g := id) (fun _ _ => rfl) found given
    result ended
  rwa [layoutFrom_eq_eachItem rank present text, ← List.map_id tags]

theorem tagEntry_of_untagged (position : Nat) {entry : Value} (h : ∀ tag, entry ≠ .tag tag) :
    tagEntry position entry = Eval.reject (.untaggedEntry entry.typeName) := by
  unfold tagEntry
  split
  · rename_i tag
    exact absurd rfl (h tag)
  · rfl

theorem layoutFrom_of_layoutRead {rank : Nat} {outcome : Except Failure Layout × Run}
    (h : LayoutRead rank run layout outcome) : layoutFrom rank layout run = outcome := by
  cases h with
  | absent => rfl
  | spelled letters =>
    rw [layoutFrom, Layout.ofText, Layout.decode_eq_ok_iff.mpr letters.symm]
    rfl
  | @stray text before c after split readable unreadable =>
    have refused : Layout.decode text.content.toList = .error ⟨before.length, c⟩ :=
      Layout.decode_eq_error_iff.mpr ⟨before, after, split, rfl, readable, unreadable⟩
    rw [layoutFrom, Layout.ofText, refused]
    exact bind_of_ok (Eval.report_pure _ _ run) _
  | notIterable present none =>
    have text (t : Text) : layout ≠ .text t := by rintro rfl; cases none
    rw [layoutFrom_eq_eachItem rank present text,
      Eval.eachItem_of_source_error _ (Eval.source_of_not_iterable none)]
    rfl
  | noSource text iterable none =>
    have present : layout ≠ .absent := by rintro rfl; cases iterable
    rw [layoutFrom_eq_eachItem rank present text, Eval.eachItem_of_source_error _ none]
    rfl
  | tags text found given ended =>
    have read := layoutFrom_of_gives rank (.ok []) text found given
      fun bound position => by rw [Eval.drain_apply, ended]
    simpa [Except.map] using read
  | @untagged _ _ _ _ entry _ _ _ text found given drawn untagged =>
    refine layoutFrom_of_gives rank (.error (.rejected (.untaggedEntry entry.typeName))) text
      found given fun bound position => ?_
    rw [Eval.drain_apply, drawn]
    simp only [tagEntry_of_untagged position untagged]
    rfl
  | @brokenOff _ _ _ _ fault _ _ text found given broken =>
    refine layoutFrom_of_gives rank (.error (.fault fault)) text found given
      fun bound position => ?_
    rw [Eval.drain_apply, broken]

theorem exists_layoutRead (rank : Nat) (layout : Value) (run : Run) :
    ∃ result after, LayoutRead rank run layout (result, after) := by
  by_cases text : ∃ t, layout = .text t
  · obtain ⟨t, rfl⟩ := text
    match read : Layout.decode t.content.toList with
    | .ok tags => exact ⟨_, _, .spelled (Layout.letters_of_decode read).symm⟩
    | .error stray =>
      obtain ⟨before, after, split, -, readable, unreadable⟩ := Layout.decode_eq_error_iff.mp read
      exact ⟨_, _, .stray split readable unreadable⟩
  have text (t : Text) : layout ≠ .text t := fun e => text ⟨t, e⟩
  match iterable : layout.isIterable with
  | false =>
    by_cases absent : layout = .absent
    · subst absent
      exact ⟨_, _, .absent⟩
    · exact ⟨_, _, .notIterable absent iterable⟩
  | true =>
    match found : layout.source with
    | .error fault => exact ⟨_, _, .noSource text iterable found⟩
    | .ok source =>
      obtain ⟨tags, rest, between, after, given, next⟩ := source.exists_gives .tag run.cursors
      rcases next with ended | ⟨entry, left, drawn, untagged⟩ | ⟨fault, broken⟩
      · exact ⟨_, _, .tags text found given ended⟩
      · exact ⟨_, _, .untagged text found given drawn untagged⟩
      · exact ⟨_, _, .brokenOff text found given broken⟩

/-! ## Refusals -/

/-- What `construct` does with a failure. -/
def refuse (dimensions : List Value) (layout : Value) : Failure → Eval Shape
  | .rejected cause => do
    .report .shape (refusalText dimensions layout cause)
    .reject cause
  | failure => throw failure

theorem construct_def (dimensions : List Value) (layout : Value) :
    construct dimensions layout
      = tryCatch (assemble dimensions layout) (refuse dimensions layout) := by
  refine congrArg (tryCatch (assemble dimensions layout)) (funext fun failure => ?_)
  cases failure <;> rfl

section Refusals

variable {dimensions : List Value} {layout : Value} {cause : Cause} {failure : Failure} {run : Run}
  {outcome : Except Failure Shape × Run}

theorem refuse_of_refused (h : Refused dimensions layout run failure outcome) :
    refuse dimensions layout failure run = outcome := by
  cases h with
  | fault => rfl
  | reported done => exact bind_of_ok done.eq _
  | unwritable heard => exact bind_of_error heard.eq _

theorem exists_refused (dimensions : List Value) (layout : Value) (cause : Cause) (run : Run) :
    ∃ outcome, Refused dimensions layout run (.rejected cause) outcome := by
  obtain ⟨fault, after, reported⟩ :=
    Eval.exists_reported .shape (refusalText dimensions layout cause) run
  match fault with
  | none => exact ⟨_, .reported reported⟩
  | some fault => exact ⟨_, .unwritable reported⟩

theorem exists_refused_misfit (dimensions : List Value) (layout : Value) {axis : Nat} {v : Value}
    (h : Misfit axis v failure) (run : Run) :
    ∃ outcome, Refused dimensions layout run failure outcome := by
  cases h with
  | tooLong => exact ⟨_, .fault⟩
  | _ => exact exists_refused dimensions layout _ run

/-- A refusal is a failure, whatever comes of writing it. -/
theorem Refused.failed (h : Refused dimensions layout run failure outcome) :
    ∃ failure, outcome.1 = .error failure := by
  cases h <;> exact ⟨_, rfl⟩

/-- Unless a record that cannot be written is to be heard of, a rejection comes out as one. -/
theorem Refused.rejected (h : Refused dimensions layout run (.rejected cause) outcome)
    (deaf : run.logging ≠ .strict) : outcome.1 = .error (.rejected cause) := by
  cases h with
  | reported => rfl
  | unwritable heard =>
    cases heard with
    | heard strict => exact absurd strict deaf

end Refusals

/-! ## The constructor -/

section Construct

variable {values : List Value} {dimensions : List Int} {layout : Value} {tags : Layout}
  {run after : Run} {cause : Cause} {outcome : Except Failure Shape × Run}

/-- A failure while the shape is assembled is logged if it is a rejection. -/
theorem construct_of_refused {failure : Failure}
    (failed : assemble values layout run = (.error failure, after))
    (refused : Refused values layout after failure outcome) :
    construct values layout run = outcome := by
  rw [construct_def, tryCatch_apply, failed]
  exact refuse_of_refused refused

/-- Whatever else comes of assembling the shape comes of constructing it. -/
theorem construct_of_unrejected {result : Except Failure Shape}
    (done : assemble values layout run = (result, after))
    (unrejected : ∀ cause, result ≠ .error (.rejected cause)) :
    construct values layout run = (result, after) := by
  rw [construct, tryCatch_apply, done]
  cases result with
  | ok s => rfl
  | error failure =>
    cases failure with
    | rejected cause => exact absurd rfl (unrejected cause)
    | _ => rfl

theorem assemble_of_allFit (fit : AllFit values dimensions) :
    assemble values layout run = (do
      let tags ← layoutFrom dimensions.length layout
      if tags.length = dimensions.length then return ⟨dimensions, tags⟩
      else .reject (.unequalLengths dimensions.length tags.length) : Eval Shape) run := by
  rw [assemble, dimensionsFrom_of_allFit 0 fit]
  rfl

theorem construct_of_misfit {fitting rest : List Value} {v : Value}
    {failure : Failure} (fit : ∀ w ∈ fitting, ∃ d, Fits w d)
    (misfit : Misfit fitting.length v failure)
    (refused : Refused (fitting ++ v :: rest) layout run failure outcome) :
    construct (fitting ++ v :: rest) layout run = outcome := by
  refine construct_of_refused ?_ refused
  rw [assemble, dimensionsFrom_of_misfit 0 rest fit (by rwa [Nat.zero_add])]
  rfl

/-- Nothing is constructed of values that do not all fit. -/
theorem construct_fails (unfit : ¬ ∃ dimensions, AllFit values dimensions) (layout : Value)
    (run : Run) : ∃ failure, (construct values layout run).1 = .error failure := by
  rcases allFit_or_misfit values with fit | ⟨fitting, v, rest, failure, rfl, fit, misfit⟩
  · exact absurd fit unfit
  · obtain ⟨outcome, refused⟩ := exists_refused_misfit (fitting ++ v :: rest) layout misfit run
    rw [construct_of_misfit fit misfit refused]
    exact refused.failed

theorem construct_of_badLayout (fit : AllFit values dimensions)
    (read : LayoutRead dimensions.length run layout (.error (.rejected cause), after))
    (refused : Refused values layout after (.rejected cause) outcome) :
    construct values layout run = outcome := by
  refine construct_of_refused ?_ refused
  rw [assemble_of_allFit fit, bind_of_error (layoutFrom_of_layoutRead read)]

theorem construct_of_layoutFault {fault : Fault} (fit : AllFit values dimensions)
    (read : LayoutRead dimensions.length run layout (.error (.fault fault), after)) :
    construct values layout run = (.error (.fault fault), after) := by
  refine construct_of_unrejected ?_ nofun
  rw [assemble_of_allFit fit, bind_of_error (layoutFrom_of_layoutRead read)]

theorem construct_of_unequalLengths (fit : AllFit values dimensions)
    (read : LayoutRead dimensions.length run layout (.ok tags, after))
    (unequal : tags.length ≠ dimensions.length)
    (refused : Refused values layout after
      (.rejected (.unequalLengths dimensions.length tags.length)) outcome) :
    construct values layout run = outcome := by
  refine construct_of_refused ?_ refused
  rw [assemble_of_allFit fit, bind_of_ok (layoutFrom_of_layoutRead read), if_neg unequal]
  rfl

theorem construct_of_equalLengths (fit : AllFit values dimensions)
    (read : LayoutRead dimensions.length run layout (.ok tags, after))
    (equal : tags.length = dimensions.length) :
    construct values layout run = (.ok ⟨dimensions, tags⟩, after) := by
  refine construct_of_unrejected ?_ nofun
  rw [assemble_of_allFit fit, bind_of_ok (layoutFrom_of_layoutRead read), if_pos equal]
  rfl

/-- Values that fit are accepted with a layout of as many tags. -/
theorem construct_eq_pure (fit : AllFit values dimensions)
    (read : layoutFrom dimensions.length layout = pure tags)
    (lengths : tags.length = dimensions.length) :
    construct values layout = pure ⟨dimensions, tags⟩ := by
  funext run
  refine construct_of_unrejected ?_ nofun
  rw [assemble_of_allFit fit, read, pure_bind, if_pos lengths]
  rfl

end Construct

/-! ## Arguments -/

section Arguments

variable {arguments values : List Value} {v layout layout' : Value} {run between after : Run}
  {failure : Failure} {outcome : Except Failure Shape × Run}

theorem ofArguments_lone (none : v.integer? = none) (text : ∀ t, v ≠ .text t)
    (notShape : ∀ s, v ≠ .shape s) (layout : Value) : ofArguments [v] layout
      = if v.isDeclaredIterable then do construct (← Eval.items v) layout
        else .reject (.notDimensions v.typeName) := by
  cases v with
  | text t => exact absurd rfl (text t)
  | shape s => exact absurd rfl (notShape s)
  | int n => cases none
  | index object compares n => cases none
  | _ => rfl

theorem layoutForCopy_of_present (s : Shape) (h : layout ≠ .absent) :
    layoutForCopy s layout = layout := by
  unfold layoutForCopy
  split
  · exact absurd rfl h
  · rfl

theorem ofArguments_of_offered (h : Offered arguments layout run values layout' between) :
    ofArguments arguments layout run = construct values layout' between := by
  cases h with
  | arguments many =>
    match arguments, many with
    | [], _ => rfl
    | [v], many =>
      obtain ⟨n, integer⟩ := many v rfl
      simp only [ofArguments, integer, Option.isSome_some, if_true]
    | _ :: _ :: _, _ => rfl
  | copied => rfl
  | @items v _ _ _ _ none text iterable copies held =>
    by_cases copied : ∃ s, v = .shape s
    · obtain ⟨s, rfl⟩ := copied
      rw [Eval.items_of_pass rfl] at held
      cases held
      change construct _ (layoutForCopy s layout) run = _
      rw [layoutForCopy_of_present s (copies s rfl)]
    · rw [ofArguments_lone none text (fun s e => copied ⟨s, e⟩), if_pos iterable, bind_of_ok held]

theorem ofArguments_of_notDimensions (none : v.integer? = none)
    (h : (∃ t, v = .text t) ∨ v.isDeclaredIterable = false) :
    ofArguments [v] layout run = (.error (.rejected (.notDimensions v.typeName)), run) := by
  rcases h with ⟨t, rfl⟩ | notIterable
  · rfl
  · have text (t : Text) : v ≠ .text t := by rintro rfl; cases notIterable
    have notShape (s : Shape) : v ≠ .shape s := by rintro rfl; cases notIterable
    rw [ofArguments_lone none text notShape, notIterable]
    rfl

theorem ofArguments_of_brokenOff (none : v.integer? = none) (text : ∀ t, v ≠ .text t)
    (iterable : v.isDeclaredIterable = true) (broken : Eval.items v run = (.error failure, after)) :
    ofArguments [v] layout run = (.error failure, after) := by
  have notShape (s : Shape) : v ≠ .shape s := by
    rintro rfl
    rw [Eval.items_of_pass rfl] at broken
    cases broken
  rw [ofArguments_lone none text notShape, if_pos iterable, bind_of_error broken]

/-- Every rule says what the constructor does. -/
theorem Settled.eq (h : Settled arguments layout run outcome) :
    ofArguments arguments layout run = outcome := by
  cases h with
  | notDimensions lone none h =>
    subst lone
    exact ofArguments_of_notDimensions none h
  | brokenOff lone none text iterable broken =>
    subst lone
    exact ofArguments_of_brokenOff none text iterable broken
  | misfit offered fit misfit refused =>
    rw [ofArguments_of_offered offered, construct_of_misfit fit misfit refused]
  | badLayout offered fit read refused =>
    rw [ofArguments_of_offered offered, construct_of_badLayout fit read refused]
  | layoutFault offered fit read =>
    rw [ofArguments_of_offered offered, construct_of_layoutFault fit read]
  | unequalLengths offered fit read unequal refused =>
    rw [ofArguments_of_offered offered, construct_of_unequalLengths fit read unequal refused]
  | accepted offered fit read equal =>
    rw [ofArguments_of_offered offered, construct_of_equalLengths fit read equal]

theorem exists_settled_of_offered (offered : Offered arguments layout run values layout' between) :
    ∃ outcome, Settled arguments layout run outcome := by
  rcases allFit_or_misfit values with
    ⟨dimensions, fit⟩ | ⟨fitting, v, rest, failure, rfl, fit, misfit⟩
  · obtain ⟨result, after, read⟩ := exists_layoutRead dimensions.length layout' between
    cases result with
    | ok tags =>
      by_cases equal : tags.length = dimensions.length
      · exact ⟨_, .accepted offered fit read equal⟩
      · obtain ⟨outcome, refused⟩ := exists_refused values layout'
          (.unequalLengths dimensions.length tags.length) after
        exact ⟨outcome, .unequalLengths offered fit read equal refused⟩
    | error failure =>
      cases failure with
      | rejected cause =>
        obtain ⟨outcome, refused⟩ := exists_refused values layout' cause after
        exact ⟨outcome, .badLayout offered fit read refused⟩
      | fault fault => exact ⟨_, .layoutFault offered fit read⟩
      | _ => cases read
  · obtain ⟨outcome, refused⟩ :=
      exists_refused_misfit (fitting ++ v :: rest) layout' misfit between
    exact ⟨outcome, .misfit offered fit misfit refused⟩

/-- Some rule applies. -/
theorem exists_settled (arguments : List Value) (layout : Value) (run : Run) :
    ∃ outcome, Settled arguments layout run outcome := by
  by_cases lone : ∃ v, arguments = [v] ∧ v.integer? = none
  · obtain ⟨v, rfl, none⟩ := lone
    by_cases unfit : (∃ t, v = .text t) ∨ v.isDeclaredIterable = false
    · exact ⟨_, .notDimensions rfl none unfit⟩
    · have text (t : Text) : v ≠ .text t := fun e => unfit (.inl ⟨t, e⟩)
      have iterable : v.isDeclaredIterable = true := Bool.not_eq_false _ ▸ fun e => unfit (.inr e)
      by_cases copied : ∃ s, v = .shape s ∧ layout = .absent
      · obtain ⟨s, rfl, rfl⟩ := copied
        exact exists_settled_of_offered .copied
      · have copies (s : Shape) (e : v = .shape s) : layout ≠ .absent :=
          fun absent => copied ⟨s, e, absent⟩
        match held : Eval.items v run with
        | (.ok values, after) =>
          exact exists_settled_of_offered (.items none text iterable copies held)
        | (.error failure, after) => exact ⟨_, .brokenOff rfl none text iterable held⟩
  · refine exists_settled_of_offered (.arguments fun v e => ?_)
    match integer : v.integer? with
    | some n => exact ⟨n, rfl⟩
    | none => exact absurd ⟨v, e, integer⟩ lone

end Arguments

/-- **The constructor does what the rules say, and nothing else.** -/
theorem ofArguments_eq_iff {arguments : List Value} {layout : Value} {run : Run}
    {outcome : Except Failure Shape × Run} :
    ofArguments arguments layout run = outcome ↔ Settled arguments layout run outcome := by
  constructor
  · rintro rfl
    obtain ⟨outcome, settled⟩ := exists_settled arguments layout run
    rwa [settled.eq]
  · exact Settled.eq

/-- A misfit that can be shown comes out as one, unless the caller wants to hear of records that
cannot be written. -/
theorem misfit_reported {arguments fitting rest : List Value} {v layout layout' : Value}
    {run between : Run} {cause : Cause}
    (offered : Offered arguments layout run (fitting ++ v :: rest) layout' between)
    (fit : ∀ w ∈ fitting, ∃ d, Fits w d) (misfit : Misfit fitting.length v (.rejected cause))
    (deaf : run.logging ≠ .strict) :
    (ofArguments arguments layout run).1 = .error (.rejected cause) := by
  obtain ⟨outcome, refused⟩ := exists_refused (fitting ++ v :: rest) layout' cause between
  rw [(Settled.misfit offered fit misfit refused).eq,
    refused.rejected (offered.sameLog.logging ▸ deaf)]

/-- Who does want to hear of them may hear of nothing else: a view that breaks off is no dimension,
and writing it for the log breaks off as well. -/
theorem misfit_not_reported : ¬ ∀ (arguments : List Value) (layout : Value) (run : Run)
    (fitting : List Value) (v : Value) (rest : List Value) (layout' : Value) (between : Run)
    (cause : Cause), Offered arguments layout run (fitting ++ v :: rest) layout' between →
      (∀ w ∈ fitting, ∃ d, Fits w d) → Misfit fitting.length v (.rejected cause) →
      (ofArguments arguments layout run).1 = .error (.rejected cause) := by
  intro reported
  let uneven : Value := .viewOver (.list [.int 1]) (.list [])
  -- the view comes first among two arguments, so the layout is not even looked at
  have refused := reported [uneven, .int 3] .absent ⟨.strict, [], [], []⟩ [] uneven [.int 3] .absent
    ⟨.strict, [], [], []⟩ (.nonIntegerDimension 0 "AxisPairs") (.arguments nofun) nofun
    (.nonInteger rfl nofun)
  have broken : (ofArguments [uneven, .int 3] .absent ⟨.strict, [], [], []⟩).1
      = .error (.fault .secondShorter) := rfl
  cases broken.symm.trans refused

end TensorShape.Shape

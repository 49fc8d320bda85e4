import TensorShape.Proofs.Accounting
import TensorShape.Proofs.Reconstruction

/-! # Interchangeable arguments

The dimensions of a shape are handed over one by one or held by a value, and its tags are held by a
value, spelled, or left out.  None of this matters for what comes out.  A value that holds the
dimensions leads to the very computation that the dimensions lead to (`ofArguments_of_gathered`).
Two layouts that say the same come into view only when something is refused, and then only in the
form in which the record shows the layout (`Retold`).

What layouts say is looked at once the dimensions are known to fit, so it is enough that they say
the same for the number of values that are offered (`assemble_congr`).

Some values that can be gone through do not stand for their items: text is never taken for
dimensions, a shape brings its tags along, and what reaches its items by their positions only is no
value to hold dimensions.  And a layout that cannot be written may get in the way of a refusal
(`not_interchange`). -/
namespace TensorShape

/-- A value whose form can be found wherever the cursors stand. -/
def Value.Writable (v : Value) : Prop :=
  ∀ cursors, ∃ form after, v.write cursors = (.ok form, after)

theorem Value.writable_of_eq_pure {v : Value} {form : String} (h : v.write = pure form) :
    v.Writable := fun cursors => ⟨form, cursors, congrFun h cursors⟩

theorem Value.writeItems_tags (live : Source → Draw String) (tags : Layout) :
    writeItems live (tags.map .tag) = pure (tags.map fun tag => (Text.tag tag).written) := by
  induction tags with
  | nil => rfl
  | cons tag rest ih =>
    simp only [List.map_cons, writeItems, ih]
    rfl

theorem Value.write_tuple_tags (tags : Layout) : (tuple (tags.map .tag)).write
    = pure (Sequence.asTuple (tags.map fun tag => (Text.tag tag).written)) := by
  simp only [write, writeWith, writeItems_tags]
  rfl

namespace Shape

variable {values : List Value} {tags : Layout} {layout layout' v w : Value} {run : Run}

/-! ## Dimensions -/

/-- A value that holds some dimensions as the one argument, given the layout that goes with it.
Text never does, and a shape only if it is not asked for its tags. -/
structure Gathered (values : List Value) (layout v : Value) : Prop where
  held : v.pass? = some (.ofList values)
  declared : v.isDeclaredIterable = true
  text : ∀ t, v ≠ .text t
  lends : ∀ s, v = .shape s → layout ≠ .absent

/-- A value that holds dimensions leads to what the dimensions lead to. -/
theorem Gathered.construct (h : Gathered values layout v) :
    ofArguments [v] layout = Shape.construct values layout := by
  by_cases copied : ∃ s, v = .shape s
  · obtain ⟨s, rfl⟩ := copied
    cases h.held
    change Shape.construct _ (layoutForCopy s layout) = _
    rw [layoutForCopy_of_present s (h.lends s rfl)]
  · have none : v.integer? = none := by
      have held := h.held
      cases v <;> first | rfl | cases held
    exact ofArguments_of_pass h.held h.declared none h.text (fun s e => copied ⟨s, e⟩) layout

/-- Dimensions can be gathered unless they are one value, and that no integer. -/
theorem Gathered.ofArguments (lone : ∀ w, values = [w] → ∃ n, w.integer? = some n)
    (h : Gathered values layout v) :
    Shape.ofArguments [v] layout = Shape.ofArguments values layout := by
  funext run
  rw [h.construct, ofArguments_of_offered (.arguments lone)]

/-- A value that says which tags a layout has: one that holds them and whose form can be found, or
their spelling. -/
inductive Tells (tags : Layout) : Value → Prop
  | holds {v : Value} : v.pass? = some (.ofList (tags.map .tag)) → v.Writable → Tells tags v
  | spells {spelling : String} : Layout.spell (.list (tags.map .tag)) = pure spelling →
    Tells tags (.plain spelling)

theorem Tells.writable (h : Tells tags v) : v.Writable := by
  cases h with
  | holds _ writable => exact writable
  | spells _ => exact Value.writable_of_eq_pure rfl

theorem Tells.present (h : Tells tags v) : v ≠ .absent := by
  rintro rfl
  cases h with
  | holds held _ => cases held

/-- The tags are what is read, for however many axes. -/
theorem Tells.read (h : Tells tags v) (rank : Nat) : layoutFrom rank v = pure tags := by
  cases h with
  | holds held _ =>
    by_cases text : ∃ t, v = .text t
    · obtain ⟨t, rfl⟩ := text
      -- text gives plain text and no tags, so there are neither letters nor tags here
      have items : t.content.toList.map (fun c => Value.plain c.toString) = tags.map .tag :=
        congrArg Pass.items (Option.some.inj held)
      cases tags with
      | nil =>
        change Layout.ofText t = _
        rw [Layout.ofText, List.map_eq_nil_iff.mp items]
        rfl
      | cons tag rest =>
        cases letters : t.content.toList with
        | nil => rw [letters] at items; cases items
        | cons c others => rw [letters] at items; cases items
    · have given : v ≠ .absent := by rintro rfl; cases held
      have stored : (Value.tuple (tags.map .tag)).pass? = some (.ofList (tags.map .tag)) := rfl
      rw [layoutFrom_eq_eachItem rank given fun t e => text ⟨t, e⟩, Eval.eachItem_of_pass held,
        ← Eval.eachItem_of_pass stored]
      exact layoutFrom_tags rank tags
  | spells spelled =>
    rw [spell_list, Eval.pure_inj] at spelled
    rw [← spelled, layoutFrom_encode]

/-! ## Refusals -/

/-- Two outcomes, for either of two layouts, that differ at most in the form in which the record of
a refusal shows the layout. -/
structure Retold (layout layout' : Value) (outcome outcome' : Except Failure Shape × Run) :
    Prop where
  result : outcome.1 = outcome'.1
  log : outcome.2.log = outcome'.2.log ∨ ∃ cursors form form' last last' log shown cause,
    layout.write cursors = (.ok form, last) ∧ layout'.write cursors = (.ok form', last') ∧
      outcome.2.log = log ++ [refusalRecord shown form cause] ∧
      outcome'.2.log = log ++ [refusalRecord shown form' cause]

theorem Retold.same (outcome : Except Failure Shape × Run) :
    Retold layout layout' outcome outcome := ⟨rfl, .inl rfl⟩

/-- Layouts that are read the same for as many axes as there are dimensions pass the same checks. -/
theorem assemble_congr (read : layoutFrom values.length layout = layoutFrom values.length layout') :
    assemble values layout = assemble values layout' := by
  funext run
  rcases allFit_or_misfit values with
    ⟨dimensions, fit⟩ | ⟨fitting, v, rest, cause, rfl, fit, misfit⟩
  · have lengths : dimensions.length = values.length := by
      have same := congrArg List.length fit.integers
      rwa [List.length_map, List.length_map, eq_comm] at same
    rw [assemble_of_allFit fit, assemble_of_allFit fit, lengths, read]
  · have refused := dimensionsFrom_of_misfit 0 rest fit (by rwa [Nat.zero_add])
    rw [assemble, assemble, refused]
    rfl

section Records

variable {dimensions : List Value} {cause : Cause} {cursors between after : List Source}
  {shown form : String} {fault : Fault}

/-- If a layout can be written it is for the dimensions that a record cannot be composed, whatever
the layout. -/
theorem refusalText_of_error (writable : layout.Writable)
    (broken : refusalText dimensions layout cause cursors = (.error fault, after))
    (layout' : Value) : refusalText dimensions layout' cause cursors = (.error fault, after) := by
  rcases bind_eq_error_iff.mp broken with first | ⟨shown, between, -, broken⟩
  · exact bind_of_error first _
  · obtain ⟨form, last, written⟩ := writable between
    rcases bind_eq_error_iff.mp broken with second | ⟨_, _, _, done⟩
    · cases written.symm.trans second
    · cases done

/-- A rejection is reported alike whichever of two layouts the record shows. -/
theorem Refused.retold (writable : layout.Writable) (writable' : layout'.Writable)
    {outcome : Except Failure Shape × Run}
    (h : Refused values layout run (.rejected cause) outcome) :
    ∃ outcome', Refused values layout' run (.rejected cause) outcome' ∧
      Retold layout layout' outcome outcome' := by
  cases h with
  | reported reported =>
    cases reported with
    | off off => exact ⟨_, .reported (.off off), .same _⟩
    | recorded kept composed =>
      obtain ⟨shown, between, first, rest⟩ := bind_eq_ok_iff.mp composed
      obtain ⟨form, last, second, done⟩ := bind_eq_ok_iff.mp rest
      cases done
      obtain ⟨form', last', second'⟩ := writable' between
      exact ⟨_, .reported (.recorded kept (refusalText_of_write first second' cause)), rfl,
        .inr ⟨between, form, form', _, last', run.log, shown, cause, second, second', rfl, rfl⟩⟩
    | dropped lenient broken =>
      exact ⟨_, .reported (.dropped lenient (refusalText_of_error writable broken layout')),
        .same _⟩
  | unwritable reported =>
    cases reported with
    | heard strict broken =>
      exact ⟨_, .unwritable (.heard strict (refusalText_of_error writable broken layout')),
        .same _⟩

end Records

/-- What is refused is refused alike, and shown with either layout. -/
theorem construct_retold
    (read : layoutFrom values.length layout = layoutFrom values.length layout')
    (writable : layout.Writable) (writable' : layout'.Writable) (run : Run) :
    Retold layout layout' (construct values layout run) (construct values layout' run) := by
  have same : assemble values layout' run = assemble values layout run := by
    rw [assemble_congr read]
  by_cases refused : ∃ cause after, assemble values layout run = (.error (.rejected cause), after)
  · obtain ⟨cause, after, done⟩ := refused
    obtain ⟨outcome, refused⟩ := exists_refused values layout cause after
    obtain ⟨outcome', refused', retold⟩ := refused.retold writable writable'
    rwa [construct_of_refused done refused, construct_of_refused (same.trans done) refused']
  · match done : assemble values layout run with
    | (result, after) =>
      have unrejected (cause : Cause) : result ≠ .error (.rejected cause) := by
        rintro rfl
        exact refused ⟨cause, after, done⟩
      rw [construct_of_unrejected done unrejected,
        construct_of_unrejected (same.trans done) unrejected]
      exact .same _

/-- A layout that is given is not looked at until the dimensions are there. -/
theorem ofArguments_of_present (arguments : List Value) (run : Run) :
    (∃ values between, ∀ layout, layout ≠ .absent →
      ofArguments arguments layout run = construct values layout between) ∨
    ∃ outcome, ∀ layout, layout ≠ .absent → ofArguments arguments layout run = outcome := by
  by_cases lone : ∃ v, arguments = [v] ∧ v.integer? = none
  · obtain ⟨v, rfl, none⟩ := lone
    by_cases unfit : (∃ t, v = .text t) ∨ v.isDeclaredIterable = false
    · exact .inr ⟨_, fun layout _ => ofArguments_of_notDimensions none unfit⟩
    · have text (t : Text) : v ≠ .text t := fun e => unfit (.inl ⟨t, e⟩)
      have iterable : v.isDeclaredIterable = true := Bool.not_eq_false _ ▸ fun e => unfit (.inr e)
      match held : Eval.items v run with
      | (.ok values, between) =>
        exact .inl ⟨values, between, fun layout given => ofArguments_of_offered
          (.items none text iterable (fun _ _ => given) held)⟩
      | (.error failure, after) =>
        exact .inr ⟨_, fun layout _ => ofArguments_of_brokenOff none text iterable held⟩
  · refine .inl ⟨arguments, run, fun layout _ => ofArguments_of_offered (.arguments fun v e => ?_)⟩
    match integer : v.integer? with
    | some n => exact ⟨n, rfl⟩
    | none => exact absurd ⟨v, e, integer⟩ lone

/-- Layouts that say the same can be put in each other's place, whatever the arguments. -/
theorem Tells.retold (h : Tells tags layout) (h' : Tells tags layout') (arguments : List Value)
    (run : Run) : Retold layout layout' (ofArguments arguments layout run)
      (ofArguments arguments layout' run) := by
  rcases ofArguments_of_present arguments run with ⟨values, between, same⟩ | ⟨outcome, same⟩
  · rw [same layout h.present, same layout' h'.present]
    have read : layoutFrom values.length layout = layoutFrom values.length layout' := by
      rw [h.read, h'.read]
    exact construct_retold read h.writable h'.writable between
  · rw [same layout h.present, same layout' h'.present]
    exact .same outcome

end Shape
end TensorShape

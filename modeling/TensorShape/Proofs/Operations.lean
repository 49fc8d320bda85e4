import TensorShape.Proofs.Validity

/-! # What goes through one operation

An operation may mention any values: as arguments, inside arguments, or as what a
callback answers.  If all that it mentions is within an upkeep, then so is all that it
does (`Operation.maintains_run`), whatever the operation, and so is what a session is left
with (`Session.Within.perform`).  Even if nothing is known of the values some things are
known of all operations (`Operation.loose_run`). -/
namespace TensorShape

variable {u : Upkeep}

/-- All parts offered for a diagnostic have a property. -/
structure Diagnostic.Parts.Holds (H : Value → Prop) (parts : Parts) : Prop where
  message : H parts.message
  code : H parts.code
  help : H parts.help
  related : H parts.related
  data : H parts.data

/-- All values that an operation mentions have a property, those included that its callback may
answer with. -/
def Operation.Holds (H : Value → Prop) : Operation → Prop
  | catalogue => True
  | construct arguments layout => (∀ v ∈ arguments, H v) ∧ H layout
  | fromPairs v => H v
  | ofTensor tensor layout => H tensor ∧ H layout
  | isShaped v => H v
  | get s axis => H (.shape s) ∧ H axis
  | size s axes => H (.shape s) ∧ ∀ v ∈ axes, H v
  | slice s first past => H (.shape s) ∧ H first ∧ H past
  | concatenate s other => H (.shape s) ∧ H other
  | query s _ => H (.shape s)
  | describe s => H (.shape s)
  | filter s wanted => H (.shape s) ∧ ∀ call tag v, wanted call tag = .ok v → H v
  | map s transform => H (.shape s) ∧ ∀ call axis v, transform call axis = .ok v → H v
  | pairs s => H (.shape s)
  | view first second => H first ∧ H second
  | cursor v => H v
  | next v => H v
  | items v => H v
  | length v => H v
  | written v => H v
  | displayed v => H v
  | truth v => H v
  | compare v w => H v ∧ H w
  | distinct values => ∀ v ∈ values, H v
  | change _ _ => True
  | tagOfLetter v => H v
  | layoutOfSpelling v => H v
  | spellLayout v => H v
  | letterOfTag _ => True
  | diagnostic _ parts => parts.Holds H

/-- The value that an operation gives, if it gives one, has a property. -/
def Result.Holds (H : Value → Prop) : Result → Prop
  | value v => H v
  | _ => True

open Upkeep

/-- Looking for a letter moves no cursors but those of a value that is no text. -/
theorem Layout.maintains_tagOf {v : Value} (h : u.Held v) :
    u.Maintains (tagOf v) fun _ => True := by
  have written := maintains_ofDraw (ensures_write h)
  unfold tagOf
  split
  · split
    · exact .pure trivial
    · exact (Shape.maintains_reportLetter (.pure trivial)).bind fun _ _ => .throw nofun
  · have searched : u.Maintains (searchFor v) fun _ => True := by
      refine maintains_ofDraw (Ensures.tryCatch ?_ fun fault => ?_)
      · exact (ensures_write h).bind fun _ _ => .pure trivial
      · split
        · exact .pure trivial
        · exact .throw _
    have reported := Shape.maintains_reportLetter (ensures_write h)
    exact searched.bind fun _ _ => reported.bind fun _ _ => written.bind fun _ _ =>
      written.bind fun _ _ => .throw nofun

theorem Layout.maintains_spell {v : Value} (h : u.Held v) :
    u.Maintains (spell v) fun _ => True := by
  refine (maintains_eachItem (S := fun _ => True) (fun position item _ => ?_) h).bind fun _ _ =>
    .pure trivial
  unfold spell.tagOnly
  split
  · exact .pure trivial
  · exact .throw nofun

/-- Assembling a diagnostic stays within an upkeep that rules no failure out. -/
theorem Diagnostic.maintains_ofParts (all : ∀ part, u.Fails (.unfit part)) (kind : Kind)
    {parts : Parts} (h : parts.Holds u.Held) : u.Maintains (ofParts kind parts) fun _ => True := by
  have fit {α : Type} (part : Except Unfit α) : u.Maintains (ofUnfit part) fun _ => True := by
    match part with
    | .ok a => exact .pure trivial
    | .error unfit => exact .fail (all unfit)
  have data : u.Maintains (dataFrom parts.data) fun _ => True := by
    unfold dataFrom
    split
    · exact .pure trivial
    · refine (maintains_eachItem (S := fun _ => True) (fun _ _ _ => fit _) h.data).bind ?_
      intro keys _
      split
      · exact (fit _).bind fun _ _ => .pure trivial
      · exact .throw nofun
  exact (fit _).bind fun _ _ => (fit _).bind fun _ _ => (fit _).bind fun _ _ =>
    (maintains_items h.related).bind fun _ _ => (fit _).bind fun _ _ => data.bind fun _ _ =>
      .pure trivial

/-- **What goes through one operation.**  It gives values that it mentions, that cursors held, or
that it has made of these. -/
theorem Operation.maintains_run {operation : Operation} (mentioned : operation.Holds u.Held)
    (opens : ∀ v, operation = .cursor v → u.Opens)
    (assembles : ∀ kind parts, operation = .diagnostic kind parts →
      ∀ part, u.Fails (.unfit part)) :
    u.Maintains operation.run (Result.Holds u.Held) := by
  -- operations fall into those that construct a shape, and those that give other plain values
  have shape {work : Eval Shape} (h : u.Maintains work Shape.Valid) :
      u.Maintains (do return Result.value (.shape (← work))) (Result.Holds u.Held) :=
    h.bind fun s ok => .pure (u.shape s ok)
  have plain {α : Type} {work : Eval α} {result : α → Result} (h : u.Maintains work fun _ => True)
      (bare : ∀ a, (result a).Holds u.Held) :
      u.Maintains (do return result (← work)) (Result.Holds u.Held) :=
    h.bind fun a _ => .pure (bare a)
  have int := u.hereditary.int
  have bool := u.hereditary.bool
  have text := u.hereditary.text
  cases operation with
  | construct arguments layout =>
    exact shape (Shape.maintains_ofArguments mentioned.1 mentioned.2)
  | fromPairs v => exact shape (Shape.maintains_ofPairs mentioned)
  | ofTensor tensor layout => exact shape (Shape.maintains_ofTensor mentioned.1 mentioned.2)
  | slice s first past => exact shape (Shape.maintains_slice s mentioned.2.1 mentioned.2.2)
  | concatenate s other => exact shape (Shape.maintains_concatenate s other)
  | filter s wanted => exact shape (Shape.maintains_filterAxes mentioned.2 s)
  | map s transform => exact shape (Shape.maintains_mapAxes mentioned.2 s)
  | get s axis => exact plain (Shape.maintains_get s mentioned.2) fun d => int d
  | size s axes => exact plain (Shape.maintains_sizeOver s mentioned.2) fun n => int n
  | query s q =>
    refine (maintains_ofExcept (fun v answered => u.hereditary.answer answered) ?_).bind
      fun _ h => .pure h
    intro failure refused
    obtain ⟨_, rfl⟩ | ⟨_, rfl⟩ | rfl := Shape.answer_eq_error refused <;> nofun
  | describe s =>
    have described : Ensures u.Kept s.description fun _ => True :=
      (ensures_write mentioned).bind fun _ _ => (ensures_display mentioned).bind fun _ _ =>
        (ensures_write (u.hereditary.pairsOf s)).bind fun _ _ => .pure trivial
    exact plain (maintains_ofDraw described) fun _ => trivial
  | pairs s => exact .pure (u.hereditary.pairsOf s)
  | view first second => exact .pure (u.hereditary.viewOver mentioned.1 mentioned.2)
  | cursor v =>
    refine Maintains.bind (Q := u.Held) ?_ fun _ h => .pure h
    unfold Eval.cursorOver
    split
    · exact .pure mentioned
    · exact (maintains_ofFault fun source e => u.hereditary.source mentioned e).bind
        fun source from' => maintains_newCursor (opens _ rfl) _ from'
  | next v =>
    refine Maintains.bind (Q := fun item => ∀ v ∈ item, u.Held v) ?_ fun item given => ?_
    · unfold Eval.nextItem
      split
      · exact maintains_ofDraw (ensures_advance mentioned)
      · exact .throw nofun
    · cases item with
      | none => exact .pure trivial
      | some v => exact .pure (given v rfl)
  | items v =>
    exact (maintains_items mentioned).bind fun items held =>
      .pure ((u.hereditary.list _).mpr held)
  | isShaped v => exact .pure (bool _)
  | length v => exact plain (maintains_ofFault fun _ _ => trivial) fun n => int n
  | written v => exact plain (maintains_ofDraw (ensures_write mentioned)) fun form => text _
  | displayed v => exact plain (maintains_ofDraw (ensures_display mentioned)) fun form => text _
  | truth v => exact plain (maintains_ofFault fun _ _ => trivial) fun b => bool b
  | distinct values => exact .pure (int _)
  | change attempt field => exact .throw nofun
  | tagOfLetter v => exact plain (Layout.maintains_tagOf mentioned) fun tag => text _
  | layoutOfSpelling v =>
    have spelled : u.Maintains (Layout.ofSpelling v) fun _ => True := by
      unfold Layout.ofSpelling
      split
      · exact Shape.maintains_ofText _
      · exact .throw nofun
    refine plain spelled fun tags => (u.hereditary.tuple _).mpr fun v held => ?_
    obtain ⟨t, _, rfl⟩ := List.mem_map.mp held
    exact text _
  | spellLayout v => exact plain (Layout.maintains_spell mentioned) fun form => text _
  | letterOfTag t => exact .pure (text _)
  | diagnostic kind parts =>
    exact plain (Diagnostic.maintains_ofParts (assembles _ _ rfl) kind mentioned) fun _ => trivial
  | catalogue | compare => exact .pure trivial

/-! ## Without knowing any value -/

theorem Source.holds_true (source : Source) : source.Holds fun _ => True := by
  induction source with
  | own pass => exact fun _ _ => trivial
  | shared place => exact ⟨.extents, trivial⟩
  | zip first second ihFirst ihSecond => exact ⟨ihFirst, ihSecond⟩

theorem Operation.holds_true (operation : Operation) : operation.Holds fun _ => True := by
  cases operation <;> simp [Operation.Holds]
  exact ⟨trivial, trivial, trivial, trivial, trivial⟩

/-- So many cursors stay open, and a part is unfit only in assembling a diagnostic. -/
def Upkeep.loose (count : Nat) (assembling : Prop) : Upkeep where
  Held _ := True
  Kept cursors := count ≤ cursors.length
  Fails failure := ∀ part, failure = .unfit part → assembling
  hereditary := by constructor <;> simp
  shape _ _ := trivial
  source _ _ _ _ _ := Source.holds_true _
  set _ _ _ _ kept _ _ := by rwa [List.length_set]
  fails _ fit part unfit := absurd unfit (fit part)

theorem Upkeep.opens_loose (count : Nat) (assembling : Prop) : (loose count assembling).Opens := by
  intro cursors kind source kept _
  refine ⟨?_, trivial⟩
  show count ≤ (cursors ++ [source]).length
  rw [List.length_append]
  exact Nat.le_add_right_of_le kept

/-- **What holds of an operation whatever it mentions**: no cursor is closed, and no part is unfit
unless the operation is to assemble a diagnostic. -/
theorem Operation.loose_run (operation : Operation) (run : Run) :
    run.cursors.length ≤ (operation.run run).2.cursors.length ∧
      ∀ part, (operation.run run).1 = .error (.unfit part) →
        ∃ kind parts, operation = .diagnostic kind parts := by
  obtain ⟨longer, -, failed⟩ := Operation.maintains_run
    (u := .loose run.cursors.length (∃ kind parts, operation = .diagnostic kind parts))
    operation.holds_true (fun _ _ => opens_loose _ _)
    (fun kind parts assembling _ _ _ => ⟨kind, parts, assembling⟩) run (Nat.le_refl _)
  exact ⟨longer, fun part unfit => failed _ unfit part rfl⟩

/-! ## Steps of a session -/

/-- All that a session holds is within an upkeep. -/
structure Session.Within (u : Upkeep) (session : Session) : Prop where
  cursors : u.Kept session.cursors
  kept : ∀ entry ∈ session.kept, u.Held entry.2

/-- What is kept after a step is what was kept before it or what the step has given. -/
theorem Session.kept_perform {H : Value → Prop} (hereditary : Hereditary H) {session : Session}
    (kept : ∀ entry ∈ session.kept, H entry.2) {operation : Operation}
    (given : ∀ result, (operation.run session.start).1 = .ok result → result.Holds H)
    (keepAs : Option String) : ∀ entry ∈ (session.perform operation keepAs).2.kept, H entry.2 := by
  simp only [Session.perform, ExceptT.run]
  generalize operation.run session.start = done at given
  obtain ⟨result, run⟩ := done
  dsimp only
  -- only a value for which a name is given is kept, under a label of its own
  split
  · exact List.forall_mem_cons.mpr ⟨hereditary.labelled (given _ rfl) _, kept⟩
  · exact kept

theorem Session.outcome_perform (session : Session) (operation : Operation)
    (keepAs : Option String) : (session.perform operation keepAs).1
      = ⟨(operation.run session.start).1, (operation.run session.start).2.log,
        (operation.run session.start).2.calls⟩ := rfl

/-- The cursors after a step are where the operation has left them. -/
theorem Session.cursors_perform (session : Session) (operation : Operation)
    (keepAs : Option String) : (session.perform operation keepAs).2.cursors
      = (operation.run session.start).2.cursors := by
  simp only [Session.perform, ExceptT.run]
  generalize operation.run session.start = done
  obtain ⟨result, run⟩ := done
  dsimp only
  split
  · rfl
  · rfl

/-- **What goes through one step of a session.** -/
theorem Session.Within.perform {session : Session} (held : session.Within u)
    {operation : Operation} (maintained : u.Maintains operation.run (Result.Holds u.Held))
    (keepAs : Option String) :
    (∀ result, (session.perform operation keepAs).1.result = .ok result → result.Holds u.Held) ∧
      (session.perform operation keepAs).2.Within u := by
  obtain ⟨cursors, given, -⟩ := maintained session.start held.cursors
  refine ⟨given, ?_, Session.kept_perform u.hereditary held.kept given keepAs⟩
  rwa [Session.cursors_perform]

end TensorShape

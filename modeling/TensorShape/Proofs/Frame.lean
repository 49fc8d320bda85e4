import TensorShape.Proofs.Sessions

/-! # Cursors that are not handed over

A value leads to the cursors that it holds at any depth (`Value.mentioned`), and what it
does not lead to, no operation on it can move: if nothing else leads to the cursor at a
place, then an operation that avoids the place leaves the cursor where it stands
(`Operation.apart_run`).  A cursor that has just been opened is such a cursor, because
callers have no way to mention one beforehand (`Session.avoids_performAll`). -/
namespace TensorShape

variable {place : Nat}

/-! ## What a value leads to -/

namespace Value

mutual

/-- The places of the cursors that a value holds. -/
def mentioned : Value → List Nat
  | list items => mentionedIn items
  | tuple items => mentionedIn items
  | dict entries => mentionedInPairs entries
  | axisPair x t => mentioned x ++ mentioned t
  | iterable _ _ items => mentionedIn items
  | mapping _ _ entries => mentionedInPairs entries
  | tensor _ v => mentioned v
  | view _ pairs _ _ => mentionedInPairs pairs
  | liveView _ first second => mentioned first ++ mentioned second
  | cursor _ place => [place]
  | _ => []

/-- The places of the cursors that some values hold. -/
def mentionedIn : List Value → List Nat
  | [] => []
  | v :: rest => mentioned v ++ mentionedIn rest

/-- The places of the cursors that some pairs hold. -/
def mentionedInPairs : List (Value × Value) → List Nat
  | [] => []
  | (x, t) :: rest => mentioned x ++ mentioned t ++ mentionedInPairs rest

end

/-- A value does not lead to the cursor at a place. -/
def Avoids (place : Nat) (v : Value) : Prop := place ∉ v.mentioned

instance (place : Nat) (v : Value) : Decidable (v.Avoids place) :=
  inferInstanceAs (Decidable (place ∉ v.mentioned))

theorem avoids_cursor_iff {kind : CursorKind} {other : Nat} :
    (cursor kind other).Avoids place ↔ other ≠ place := by
  simp [Avoids, mentioned, eq_comm]

theorem mem_mentionedIn_iff {items : List Value} :
    place ∈ mentionedIn items ↔ ∃ v ∈ items, place ∈ v.mentioned := by
  induction items with
  | nil => simp [mentionedIn]
  | cons v rest ih => simp [mentionedIn, ih]

theorem mem_mentionedInPairs_iff {pairs : List (Value × Value)} :
    place ∈ mentionedInPairs pairs ↔
      ∃ p ∈ pairs, place ∈ p.1.mentioned ∨ place ∈ p.2.mentioned := by
  induction pairs with
  | nil => simp [mentionedInPairs]
  | cons p rest ih => simp [mentionedInPairs, ih, or_assoc]

theorem hereditary_avoids : Hereditary (Avoids place) where
  int _ := List.not_mem_nil
  bool _ := List.not_mem_nil
  text _ := List.not_mem_nil
  list _ := by simp [Avoids, mentioned, mem_mentionedIn_iff]
  tuple _ := by simp [Avoids, mentioned, mem_mentionedIn_iff]
  dict _ := by simp only [Avoids, mentioned, mem_mentionedInPairs_iff, not_exists, not_and, not_or]
  axisPair _ _ := by simp [Avoids, mentioned]
  iterable _ _ _ := by simp [Avoids, mentioned, mem_mentionedIn_iff]
  mapping _ _ _ := by
    simp only [Avoids, mentioned, mem_mentionedInPairs_iff, not_exists, not_and, not_or]
  tensor _ _ := by rw [Avoids, mentioned, Avoids]
  view _ _ _ _ := by
    simp only [Avoids, mentioned, mem_mentionedInPairs_iff, not_exists, not_and, not_or]
  liveView _ _ _ := by simp [Avoids, mentioned]
  relabelled _ _ _ _ h := h
  paired _ _ _ _ _ h h' := by
    rw [Avoids, mentioned, List.mem_append]
    exact fun among => among.elim h h'

end Value

/-! ## A cursor apart from all others -/

/-- There is a certain source at a place, or none, and no cursor at another place leads there. -/
structure Apart (place : Nat) (source : Option Source) (cursors : List Source) : Prop where
  there : cursors[place]? = source
  others : ∀ (other : Nat) (s : Source), other ≠ place → cursors[other]? = some s →
    s.Holds (Value.Avoids place)

namespace Apart

variable {source : Option Source} {cursors : List Source} {new : Source}

theorem length_pos {old : Source} (h : Apart place (some old) cursors) : place < cursors.length :=
  (List.getElem?_eq_some_iff.mp h.there).1

/-- Moving another cursor on leaves this one where it stands. -/
theorem set_other (h : Apart place source cursors) {other : Nat} (apart : other ≠ place)
    (held : new.Holds (Value.Avoids place)) : Apart place source (cursors.set other new) where
  there := by rw [List.getElem?_set_ne apart, h.there]
  others another s away found := by
    by_cases same : other = another
    · subst same
      rw [List.getElem?_set, if_pos rfl] at found
      split at found
      · cases found
        exact held
      · cases found
    · rw [List.getElem?_set_ne same] at found
      exact h.others another s away found

/-- Moving this cursor on leaves all others where they stand. -/
theorem set_self {old : Source} (h : Apart place (some old) cursors) (new : Source) :
    Apart place (some new) (cursors.set place new) where
  there := List.getElem?_set_self h.length_pos
  others other s away found := by
    rw [List.getElem?_set_ne away.symm] at found
    exact h.others other s away found

/-- Opening a cursor leaves those where they stand that are open. -/
theorem append {old : Source} (h : Apart place (some old) cursors)
    (held : new.Holds (Value.Avoids place)) : Apart place (some old) (cursors ++ [new]) where
  there := by rw [List.getElem?_append_left h.length_pos, h.there]
  others other s away found := by
    rcases Nat.lt_or_ge other cursors.length with before | after
    · rw [List.getElem?_append_left before] at found
      exact h.others other s away found
    · rw [List.getElem?_append_right after] at found
      obtain rfl := List.mem_singleton.mp (List.mem_of_getElem? found)
      exact held

/-- A cursor that has just been opened is apart from all others if nothing led there before. -/
theorem opened (unled : ∀ s ∈ cursors, s.Holds (Value.Avoids cursors.length)) (new : Source) :
    Apart cursors.length (some new) (cursors ++ [new]) where
  there := List.getElem?_concat_length
  others other s away found := by
    have within := (List.getElem?_eq_some_iff.mp found).1
    rw [List.length_append, List.length_singleton] at within
    have before : other < cursors.length := by omega
    rw [List.getElem?_append_left before] at found
    exact unled s (List.mem_of_getElem? found)

end Apart

/-- **Whatever avoids a place leaves the cursor there alone.** -/
def Upkeep.apart (place : Nat) (source : Option Source) : Upkeep where
  Held := Value.Avoids place
  Kept := Apart place source
  Fails _ := True
  hereditary := Value.hereditary_avoids
  shape _ _ := List.not_mem_nil
  source cursors kind other kept mentioned := by
    rw [List.getD_eq_getElem?_getD]
    cases found : cursors[other]? with
    | none => exact Source.holds_ended _
    | some s => exact kept.others other s (Value.avoids_cursor_iff.mp mentioned) found
  set _ _ _ _ kept mentioned held := kept.set_other (Value.avoids_cursor_iff.mp mentioned) held
  fails _ _ := trivial

theorem Upkeep.opens_apart (place : Nat) (old : Source) : (apart place (some old)).Opens :=
  fun _ _ _ kept held => ⟨kept.append held,
    Value.avoids_cursor_iff.mpr (Nat.ne_of_gt kept.length_pos)⟩

/-- An operation that avoids a place leaves the cursor there where it stands. -/
theorem Operation.apart_run {operation : Operation} (avoids : operation.Holds (Value.Avoids place))
    {old : Source} {run : Run} (h : Apart place (some old) run.cursors) :
    Apart place (some old) (operation.run run).2.cursors :=
  (Operation.maintains_run (u := .apart place (some old)) avoids
    (fun _ _ => Upkeep.opens_apart place old) (fun _ _ _ _ => trivial) run h).1

/-! ## Cursors that are yet to be opened -/

namespace Session

/-- Nothing that a session holds leads to the cursor at a place. -/
structure Avoids (place : Nat) (session : Session) : Prop where
  cursors : ∀ s ∈ session.cursors, s.Holds (Value.Avoids place)
  kept : ∀ entry ∈ session.kept, entry.2.Avoids place

/-- A step mentions no cursors but those that the session holds. -/
def Step.Candid (step : Step) : Prop :=
  ∀ (place : Nat) (session : Session), session.Avoids place →
    (step.operation session).Holds (Value.Avoids place)

theorem Avoids.apart {session : Session} (h : session.Avoids place)
    (unopened : session.cursors.length ≤ place) : Apart place none session.cursors where
  there := List.getElem?_eq_none unopened
  others _ _ _ found := h.cursors _ (List.mem_of_getElem? found)

end Session

/-- A cursor is its own; another value has a new one, if it can be gone through. -/
theorem Eval.cursorOver_apply (v : Value) (run : Run) :
    (∃ kind place, v = .cursor kind place ∧ cursorOver v run = (.ok v, run)) ∨
    (∃ fault, v.source = .error fault ∧ cursorOver v run = (.error (.fault fault), run)) ∨
    ∃ source, v.source = .ok source ∧ cursorOver v run
      = (.ok (.cursor v.cursorKind run.cursors.length),
        { run with cursors := run.cursors ++ [source] }) := by
  unfold cursorOver
  split
  · exact .inl ⟨_, _, rfl, rfl⟩
  · cases found : v.source with
    | error fault => exact .inr (.inl ⟨fault, rfl, rfl⟩)
    | ok source => exact .inr (.inr ⟨source, rfl, rfl⟩)

/-- What a session holds after an operation leads to no cursor that is not open then, if that was so
before it. -/
theorem Session.avoids_perform {session : Session} {operation : Operation}
    (avoids : session.Avoids place) (mentioned : operation.Holds (Value.Avoids place))
    (keepAs : Option String)
    (unopened : (session.perform operation keepAs).2.cursors.length ≤ place) :
    (session.perform operation keepAs).2.Avoids place := by
  rw [cursors_perform] at unopened
  have before : session.cursors.length ≤ place :=
    Nat.le_trans (operation.loose_run session.start).1 unopened
  by_cases opens : ∃ v, operation = .cursor v
  · obtain ⟨v, rfl⟩ := opens
    have done : (Operation.cursor v).run session.start
        = (Eval.cursorOver v >>= fun v => pure (.value v) : Eval Result) session.start := rfl
    have kept := @kept_perform _ Value.hereditary_avoids session avoids.kept (.cursor v)
    rcases Eval.cursorOver_apply v session.start with
      ⟨kind, other, rfl, same⟩ | ⟨fault, -, failed⟩ | ⟨source, found, opened⟩
    · rw [bind_of_ok same] at done
      refine ⟨?_, kept (fun result e => ?_) keepAs⟩
      · rw [cursors_perform, done]
        exact avoids.cursors
      · rw [done] at e
        cases e
        exact mentioned
    · rw [bind_of_error failed] at done
      refine ⟨?_, kept (fun result e => ?_) keepAs⟩
      · rw [cursors_perform, done]
        exact avoids.cursors
      · rw [done] at e
        cases e
    · rw [bind_of_ok opened] at done
      rw [done] at unopened
      refine ⟨?_, kept (fun result e => ?_) keepAs⟩
      · rw [cursors_perform, done]
        refine List.forall_mem_append.mpr ⟨avoids.cursors, List.forall_mem_singleton.mpr ?_⟩
        exact Value.hereditary_avoids.source mentioned found
      · rw [done] at e
        cases e
        -- the place is past the cursor that has just been opened
        have past : (session.cursors ++ [source]).length ≤ place := unopened
        rw [List.length_append] at past
        exact Value.avoids_cursor_iff.mpr (Nat.ne_of_lt past)
  · have within : session.Within (.apart place none) := ⟨avoids.apart before, avoids.kept⟩
    have maintained := Operation.maintains_run (u := .apart place none) mentioned
      (fun v e => absurd ⟨v, e⟩ opens) fun _ _ _ _ => trivial
    obtain ⟨-, cursors, kept⟩ := within.perform maintained keepAs
    refine ⟨fun s held => ?_, kept⟩
    obtain ⟨other, found⟩ := List.getElem?_of_mem held
    have away : other ≠ place := by
      rintro rfl
      cases found.symm.trans cursors.there
    exact cursors.others other s away found

/-- **Nothing leads to a cursor that is yet to be opened.** -/
theorem Session.avoids_performAll {steps : List Step} (candid : ∀ step ∈ steps, step.Candid)
    {session : Session} (avoids : ∀ place, session.cursors.length ≤ place → session.Avoids place)
    (unopened : (session.performAll steps).2.cursors.length ≤ place) :
    (session.performAll steps).2.Avoids place := by
  induction steps generalizing session with
  | nil => exact avoids place unopened
  | cons step rest ih =>
    obtain ⟨first, others⟩ := List.forall_mem_cons.mp candid
    refine @ih others (session.perform (step.operation session) step.keepAs).2
      (fun place unopened => ?_) unopened
    have before : session.cursors.length ≤ place := by
      refine Nat.le_trans ?_ unopened
      show _ ≤ (session.perform (step.operation session) step.keepAs).2.cursors.length
      rw [cursors_perform]
      exact ((step.operation session).loose_run session.start).1
    have held := avoids place before
    exact avoids_perform held (first place session held) step.keepAs unopened

end TensorShape

import TensorShape.Proofs.Frame
import TensorShape.Proofs.Reconstruction

/-! # Passes that do not disturb each other

A cursor over a shape, or over the view of its pairs, gives the axes one by one.  What it
gives next depends on how often it has been asked, and on nothing else that has been asked
in between: an operation that does not mention the cursor leaves it where it stands, and of
each that does it is known how far it moves it (`Operation.Moves`).  So after any number of
steps the cursor has exactly the axes left that it has not given (`Session.Walks.apart`),
and `PassAt` says what can be done with these. -/
namespace TensorShape

variable {s : Shape} {kind : CursorKind} {place k : Nat} {v : Value}

/-! ## What a cursor over a shape gives -/

/-- What a cursor of some kind gives for an axis. -/
def CursorKind.item : CursorKind → Axis → Value
  | pairs, axis => .ofAxis axis
  | _, axis => .int axis.dimension

/-- The values over which a cursor goes through the axes of a shape: the shape itself, and the view
of its pairs, whether or not it has been kept. -/
inductive Shape.Walked (s : Shape) : CursorKind → Value → Prop
  | extents : Walked s .extents (.shape s)
  | pairs : Walked s .pairs (.pairsOf s)
  | kept {label} : Walked s .pairs ((Value.pairsOf s).labelled label)

/-- The axes that a cursor over a shape has left when it has been asked for `k` of them. -/
def Shape.remaining (s : Shape) (kind : CursorKind) (k : Nat) : Source :=
  .own (.ofList ((s.axes.drop k).map kind.item))

theorem Value.pass?_labelled (v : Value) (label : Nat) : (v.labelled label).pass? = v.pass? := by
  unfold labelled
  split
  · rfl
  · rfl
  · rfl

namespace Shape

theorem map_item_extents (valid : s.Valid) :
    s.axes.map (CursorKind.item .extents) = Value.dimensions s := by
  conv_rhs => rw [← ofAxes_axes valid]
  rw [Value.dimensions, ofAxes, List.map_map]
  rfl

theorem remaining_of_le (valid : s.Valid) (past : s.rank ≤ k) :
    s.remaining kind k = .ended := by
  have none : s.axes.drop k = [] := List.drop_eq_nil_of_le (by rwa [valid.axes_length])
  rw [remaining, none]
  rfl

/-- One pass over such a value gives the items that its cursor gives. -/
theorem Walked.pass (walked : s.Walked kind v) (valid : s.Valid) :
    v.pass? = some (.ofList (s.axes.map kind.item)) ∧ v.cursorKind = kind := by
  have unlabelled :
      (Value.pairsOf s).pass? = some (.ofList (s.axes.map (CursorKind.item .pairs))) :=
    pass?_pairsOf valid
  cases walked with
  | extents => exact ⟨by rw [map_item_extents valid]; rfl, rfl⟩
  | pairs => exact ⟨unlabelled, rfl⟩
  | kept => exact ⟨by rw [Value.pass?_labelled, unlabelled], rfl⟩

end Shape

/-- A cursor over what holds its items is a new one, and moves no other. -/
theorem Eval.cursorOver_of_pass {pass : Pass} (held : v.pass? = some pass) (run : Run) :
    cursorOver v run = (.ok (.cursor v.cursorKind run.cursors.length),
      { run with cursors := run.cursors ++ [.own pass] }) := by
  have found := source_of_pass held
  rcases cursorOver_apply v run with
    ⟨kind, place, rfl, -⟩ | ⟨fault, broken, -⟩ | ⟨source, same, done⟩
  · cases held
  · cases found.symm.trans broken
  · cases found.symm.trans same
    exact done

/-! ## How far an operation moves a cursor -/

/-- How many axes a cursor over a shape has been asked for after an operation, if it has been asked
for `k` before it. -/
inductive Operation.Moves (rank : Nat) (kind : CursorKind) (place : Nat) :
    Operation → Nat → Nat → Prop
  /-- To ask for the next item is to move on by one, even at the end. -/
  | next {k : Nat} : Moves rank kind place (.next (.cursor kind place)) k (k + 1)
  /-- To hand the cursor over is to use it up. -/
  | items {k : Nat} : Moves rank kind place (.items (.cursor kind place)) k (max k rank)
  | construct {k : Nat} : kind = .extents →
    Moves rank kind place (.construct [.cursor kind place] .absent) k (max k rank)
  | fromPairs {k : Nat} : kind = .pairs →
    Moves rank kind place (.fromPairs (.cursor kind place)) k (max k rank)
  /-- No other operation matters that does not mention the cursor. -/
  | other {operation : Operation} {k : Nat} : operation.Holds (Value.Avoids place) →
    Moves rank kind place operation k k

/-- How many axes a cursor over a shape has been asked for after some steps of a session. -/
inductive Session.Walks (rank : Nat) (kind : CursorKind) (place : Nat) :
    Session → List Step → Nat → Nat → Prop
  | nil {session : Session} {k : Nat} : Walks rank kind place session [] k k
  | cons {session : Session} {step : Step} {rest : List Step} {k m n : Nat} :
    (step.operation session).Moves rank kind place k m →
    Walks rank kind place (session.perform (step.operation session) step.keepAs).2 rest m n →
    Walks rank kind place session (step :: rest) k n

/-! ## What can be done with the rest -/

/-- In a session an operation has an outcome, leaves no record, and moves no cursor but the one at a
place. -/
def Session.Answers (session : Session) (place : Nat) (operation : Operation)
    (result : Except Failure Result) : Prop :=
  ∀ keepAs, (session.perform operation keepAs).1 = ⟨result, [], []⟩ ∧
    ∀ other, other ≠ place →
      (session.perform operation keepAs).2.cursors[other]? = session.cursors[other]?

/-- In a session an operation gives a result, leaves no record, and moves no cursor but the one at
a place. -/
def Session.Yields (session : Session) (place : Nat) (operation : Operation) (result : Result) :
    Prop :=
  ∀ keepAs, (session.perform operation keepAs).1 = ⟨.ok result, [], []⟩ ∧
    ∀ other, other ≠ place →
      (session.perform operation keepAs).2.cursors[other]? = session.cursors[other]?

/-- **What a cursor over a shape still has to give when it has been asked for `k` axes.** -/
structure Session.PassAt (s : Shape) (kind : CursorKind) (place k : Nat) (session : Session) :
    Prop where
  next : k < s.rank → ∃ d t, s.get (.int k) = pure d ∧ s.layout[k]? = some t ∧
    session.Yields place (.next (.cursor kind place)) (.value (kind.item ⟨d, t⟩))
  done : s.rank ≤ k → session.Yields place (.next (.cursor kind place)) .exhausted
  items : session.Yields place (.items (.cursor kind place))
    (.value (.list ((s.axes.map kind.item).drop k)))
  /-- A shape of the extents that are left has their dimensions, and no tags. -/
  construct : kind = .extents → ∃ t : Shape, s.slice (.int (min k s.rank : Nat)) .absent = pure t ∧
    session.Yields place (.construct [.cursor kind place] .absent)
      (.value (.shape ⟨t.dimensions, Layout.silent t.rank⟩))
  /-- A shape of the pairs that are left has their tags as well. -/
  fromPairs : kind = .pairs → ∃ t : Shape, s.slice (.int (min k s.rank : Nat)) .absent = pure t ∧
    session.Yields place (.fromPairs (.cursor kind place)) (.value (.shape t))

/-! ## Asking for the next axis, and for all of them -/

section Runs

variable {run : Run}

theorem Shape.Valid.drop_axes (valid : s.Valid) (k : Nat) : (ofAxes (s.axes.drop k)).Valid :=
  valid_ofAxes_iff.mpr fun axis held => valid.bounded_axes axis (List.mem_of_mem_drop held)

/-- The slice from `k` on, or from the end on if that comes first, has the axes from `k` on. -/
theorem Shape.slice_rest (valid : s.Valid) (k : Nat) :
    s.slice (.int (min k s.rank : Nat)) .absent = pure (ofAxes (s.axes.drop k)) := by
  rw [slice_eq valid rfl rfl (by omega)]
  refine congrArg _ (Valid.ext (valid.segment _ _) (valid.drop_axes k) ?_)
  have all : s.axes.take s.rank = s.axes := List.take_of_length_le (Nat.le_of_eq valid.axes_length)
  rw [axes_ofAxes, axes_segment, Int.toNat_natCast, Int.toNat_natCast, all]
  rcases Nat.le_total k s.rank with within | past
  · rw [Nat.min_eq_left within]
  · rw [Nat.min_eq_right past, List.drop_eq_nil_of_le (Nat.le_of_eq valid.axes_length),
      List.drop_eq_nil_of_le (Nat.le_trans (Nat.le_of_eq valid.axes_length) past)]

namespace Operation

/-- The next axis is the one that has as many before it as have been asked for. -/
theorem next_run_of_some (held : run.cursors[place]? = some (s.remaining kind k)) {axis : Axis}
    (there : s.axes[k]? = some axis) : (next (.cursor kind place)).run run
      = (.ok (.value (kind.item axis)),
        { run with cursors := run.cursors.set place (s.remaining kind (k + 1)) }) := by
  obtain ⟨within, same⟩ := List.getElem?_eq_some_iff.mp there
  rw [Shape.remaining, List.drop_eq_getElem_cons within, same] at held
  have drawn := Eval.ofDraw_of_ok (Draw.advance_own_cons held)
  exact bind_of_ok drawn _

theorem next_run_of_le (valid : s.Valid) (held : run.cursors[place]? = some (s.remaining kind k))
    (past : s.rank ≤ k) : (next (.cursor kind place)).run run = (.ok .exhausted, run) := by
  rw [Shape.remaining_of_le valid past] at held
  have drawn := Eval.ofDraw_of_ok (Draw.advance_ended held)
  exact bind_of_ok drawn _

variable (held : run.cursors[place]? = some (s.remaining kind k))
include held

theorem items_run : (items (.cursor kind place)).run run
      = (.ok (.value (.list ((s.axes.drop k).map kind.item))),
        { run with cursors := run.cursors.set place .ended }) :=
  bind_of_ok (Eval.eachItem_own_cursor (fun _ _ => rfl) held kind) _

theorem construct_run (valid : s.Valid) (extents : kind = .extents) :
    (construct [.cursor kind place] .absent).run run
      = (.ok (.value (.shape ⟨(Shape.ofAxes (s.axes.drop k)).dimensions,
          Layout.silent (Shape.ofAxes (s.axes.drop k)).rank⟩)),
        { run with cursors := run.cursors.set place .ended }) := by
  subst extents
  have gone : Eval.items (.cursor .extents place) run = _ :=
    Eval.eachItem_own_cursor (fun _ _ => rfl) held .extents
  have fit := Shape.allFit_dimensions (valid.drop_axes k).bounded
  have listed : (Shape.ofAxes (s.axes.drop k)).dimensions.map Value.int
      = (s.axes.drop k).map (CursorKind.item .extents) := List.map_map
  rw [listed] at fit
  have offered : Shape.Offered [.cursor .extents place] .absent run _ .absent _ :=
    .items rfl nofun rfl nofun gone
  have made := Shape.ofArguments_of_offered offered
  rw [Shape.construct_absent fit] at made
  exact bind_of_ok made _

theorem fromPairs_run (valid : s.Valid) (pairs : kind = .pairs) :
    (fromPairs (.cursor kind place)).run run
      = (.ok (.value (.shape (Shape.ofAxes (s.axes.drop k)))),
        { run with cursors := run.cursors.set place .ended }) := by
  subst pairs
  have gone := Eval.eachItem_own_cursor (f := Shape.splitPair) (l := s.axes.drop k)
    (g := fun axis => (.int axis.dimension, .tag axis.tag))
    (fun position axis => Shape.splitPair_of_pass position rfl) held .pairs
  have made := bind_of_ok gone Shape.ofParts
  rw [Shape.ofParts_eq (valid.drop_axes k)] at made
  exact bind_of_ok made _

end Operation

end Runs

/-! ## Sessions -/

/-- **What one operation leaves of a pass.** -/
theorem Operation.Moves.apart (valid : s.Valid) {operation : Operation} {k n : Nat}
    (moves : operation.Moves s.rank kind place k n) {run : Run}
    (h : Apart place (some (s.remaining kind k)) run.cursors) :
    Apart place (some (s.remaining kind n)) (operation.run run).2.cursors := by
  have used : s.remaining kind (max k s.rank) = .ended :=
    Shape.remaining_of_le valid (Nat.le_max_right _ _)
  cases moves with
  | next =>
    rcases Nat.lt_or_ge k s.rank with within | past
    · have axis := List.getElem?_eq_getElem (l := s.axes) (valid.axes_length ▸ within)
      rw [next_run_of_some h.there axis]
      exact h.set_self _
    · rw [next_run_of_le valid h.there past]
      rwa [Shape.remaining_of_le valid (Nat.le_succ_of_le past),
        ← Shape.remaining_of_le valid past]
  | items =>
    rw [items_run h.there, used]
    exact h.set_self _
  | construct extents =>
    rw [construct_run h.there valid extents, used]
    exact h.set_self _
  | fromPairs pairs =>
    rw [fromPairs_run h.there valid pairs, used]
    exact h.set_self _
  | other avoids => exact Operation.apart_run avoids h

namespace Session

/-- **What any number of steps leave of a pass.** -/
theorem Walks.apart (valid : s.Valid) {session : Session} {steps : List Step} {k n : Nat}
    (walks : session.Walks s.rank kind place steps k n)
    (h : Apart place (some (s.remaining kind k)) session.cursors) :
    Apart place (some (s.remaining kind n)) (session.performAll steps).2.cursors := by
  induction walks with
  | nil => exact h
  | cons moves _ ih =>
    refine ih ?_
    rw [cursors_perform]
    exact moves.apart valid h

theorem answers_of_run {session : Session} {operation : Operation}
    {result : Except Failure Result} {after : List Source}
    (done : operation.run session.start = (result, ⟨session.logging, after, [], []⟩))
    (others : ∀ other, other ≠ place → after[other]? = session.cursors[other]?) :
    session.Answers place operation result := by
  intro keepAs
  constructor
  · rw [outcome_perform, done]
  · intro other away
    rw [cursors_perform, done, others other away]

theorem yields_of_run {session : Session} {operation : Operation} {result : Result}
    {after : List Source}
    (done : operation.run session.start = (.ok result, ⟨session.logging, after, [], []⟩))
    (others : ∀ other, other ≠ place → after[other]? = session.cursors[other]?) :
    session.Yields place operation result := answers_of_run done others

theorem passAt_of_apart (valid : s.Valid) {session : Session}
    (h : Apart place (some (s.remaining kind k)) session.cursors) :
    PassAt s kind place k session := by
  have others (rest : Source) (other : Nat) (away : other ≠ place) :
      (session.cursors.set place rest)[other]? = session.cursors[other]? :=
    List.getElem?_set_ne away.symm
  have there : session.start.cursors[place]? = _ := h.there
  refine ⟨fun within => ?_, fun past => ?_, ?_, fun extents => ?_, fun pairs => ?_⟩
  · have tagged : k < s.layout.length := valid.layout_length ▸ within
    refine ⟨s.dimensions[k], s.layout[k], Shape.get_of_within rfl rfl within,
      List.getElem?_eq_getElem tagged, ?_⟩
    have axis : s.axes[k]? = some ⟨s.dimensions[k], s.layout[k]⟩ := by
      rw [Shape.axes, List.getElem?_zipWith, List.getElem?_eq_getElem within,
        List.getElem?_eq_getElem tagged]
    exact yields_of_run (Operation.next_run_of_some there axis) (others _)
  · exact yields_of_run (Operation.next_run_of_le valid there past) fun _ _ => rfl
  · rw [← List.map_drop]
    exact yields_of_run (Operation.items_run there) (others _)
  · exact ⟨_, Shape.slice_rest valid k,
      yields_of_run (Operation.construct_run there valid extents) (others _)⟩
  · exact ⟨_, Shape.slice_rest valid k,
      yields_of_run (Operation.fromPairs_run there valid pairs) (others _)⟩

end Session

/-- A cursor that is opened over what holds its items is a new one, and nothing else leads there. -/
theorem Session.apart_opened (logging : Logging) {earlier : List Session.Step}
    (candid : ∀ step ∈ earlier, step.Candid) {pass : Pass} (held : v.pass? = some pass)
    (keepAs : Option String) :
    let before := ((Session.fresh logging).performAll earlier).2
    let opened := before.perform (.cursor v) keepAs
    opened.1.result = .ok (.value (.cursor v.cursorKind before.cursors.length)) ∧
      Apart before.cursors.length (some (.own pass)) opened.2.cursors := by
  intro before opened
  have done : (Operation.cursor v).run before.start = _ :=
    bind_of_ok (Eval.cursorOver_of_pass held before.start) _
  have avoids : before.Avoids before.cursors.length := by
    refine Session.avoids_performAll candid (fun place _ => ?_) (Nat.le_refl _)
    exact ⟨fun _ held => absurd held List.not_mem_nil, fun _ held => absurd held List.not_mem_nil⟩
  refine ⟨congrArg Prod.fst done, ?_⟩
  show Apart _ _ (before.perform _ keepAs).2.cursors
  rw [Session.cursors_perform, done]
  exact .opened avoids.cursors _

/-- **Passes do not disturb each other.**  A cursor over a shape or its pairs that is opened at any
time is a new one, and after any further steps it goes on with the axes that it has not been asked
for, as if nothing else had been asked. -/
theorem passes_undisturbed (logging : Logging) {earlier : List Session.Step}
    (candid : ∀ step ∈ earlier, step.Candid) (valid : s.Valid) (walked : s.Walked kind v)
    (keepAs : Option String) :
    let before := ((Session.fresh logging).performAll earlier).2
    let opened := before.perform (.cursor v) keepAs
    opened.1.result = .ok (.value (.cursor kind before.cursors.length)) ∧
      ∀ later k, opened.2.Walks s.rank kind before.cursors.length later 0 k →
        (opened.2.performAll later).2.PassAt s kind before.cursors.length k := by
  intro before opened
  obtain ⟨held, same⟩ := walked.pass valid
  obtain ⟨given, apart⟩ := Session.apart_opened logging candid held keepAs
  rw [same] at given
  exact ⟨given, fun later k walks => Session.passAt_of_apart valid (walks.apart valid apart)⟩

/-- Two cursors over one shape, one of them over its pairs: what is asked of the first, and that it
is handed over, does not matter for the second. -/
theorem passes_undisturbed_interleaved :
    let s : Shape := ⟨[2, 3], [.height, .width]⟩
    let earlier : List Session.Step := [⟨fun _ => .cursor (.shape s), none⟩]
    let opened :=
      (((Session.fresh .lenient).performAll earlier).2.perform (.cursor (.pairsOf s)) none).2
    let later : List Session.Step := [⟨fun _ => .next (.cursor .extents 0), none⟩,
      ⟨fun _ => .next (.cursor .pairs 1), none⟩,
      ⟨fun _ => .construct [.cursor .extents 0] .absent, none⟩]
    (∀ step ∈ earlier, step.Candid) ∧ s.Valid ∧ s.Walked .pairs (.pairsOf s) ∧
      opened.Walks s.rank .pairs 1 later 0 1 ∧
      (opened.performAll later).2.PassAt s .pairs 1 1 := by
  intro s earlier opened later
  have candid : ∀ step ∈ earlier, step.Candid :=
    List.forall_mem_singleton.mpr fun _ _ _ => List.not_mem_nil
  have valid : s.Valid := by decide
  have walks : opened.Walks s.rank .pairs 1 later 0 1 := by
    refine .cons (.other ?_) (.cons .next (.cons (.other ?_) .nil))
    · exact Value.avoids_cursor_iff.mpr (by decide)
    · exact ⟨List.forall_mem_singleton.mpr (Value.avoids_cursor_iff.mpr (by decide)),
        List.not_mem_nil⟩
  exact ⟨candid, valid, .pairs, walks,
    (passes_undisturbed .lenient candid valid .pairs none).2 later 1 walks⟩

end TensorShape

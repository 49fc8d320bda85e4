import TensorShape.Proofs.Acceptance

/-! # Derivations as programs on lists

A derivation builds a shape from given shapes step by step.  Read as a program on lists
of axes it is a composition of `take`, `drop`, `++`, `filter` and `map`
(`Derivation.denote`), and carrying it out on shapes comes to the same: the same axes, or
else a failure in the same place (`agrees`).

Two things have to be shown for each step.  On valid shapes the checks of the
constructor find nothing that the list program does not find, which is what the
equations of `Revalidation` say; and what the list program refuses the step refuses as
well, whatever becomes of writing it for the log. -/
namespace TensorShape

/-- A way of building a shape from given shapes. -/
inductive Derivation where
  | leaf (s : Shape)
  | slice (d : Derivation) (first past : Value)
  | concatenate (d e : Derivation)
  | filter (d : Derivation) (wanted : Tag → Bool)
  | map (d : Derivation) (f : Axis → Axis)
  /-- The shape of the pairs of a shape. -/
  | pairs (d : Derivation)

/-- One of the derivations that a step starts from. -/
inductive Branch where
  | only
  | left
  | right
  deriving DecidableEq, Repr

/-- A place in a derivation: the branches that lead to it, the last one first. -/
abbrev Place := List Branch

namespace Derivation

/-- All shapes that a derivation starts from are valid. -/
def Grounded : Derivation → Prop
  | leaf s => s.Valid
  | slice d _ _ => d.Grounded
  | concatenate d e => d.Grounded ∧ e.Grounded
  | filter d _ => d.Grounded
  | map d _ => d.Grounded
  | pairs d => d.Grounded

/-- Carries out a step of a derivation.  If it fails, it is known where. -/
def attempt (place : Place) (work : Eval Shape) : ExceptT Place (StateM Run) Shape :=
  work.adapt fun _ => place

/-- Carries out a derivation, from left to right. -/
def run : Derivation → Place → ExceptT Place (StateM Run) Shape
  | leaf s, _ => pure s
  | slice d first past, place => do
    let s ← d.run (.only :: place)
    attempt place (s.slice first past)
  | concatenate d e, place => do
    let s ← d.run (.left :: place)
    let t ← e.run (.right :: place)
    attempt place (s.concatenate (.shape t))
  | filter d wanted, place => do
    let s ← d.run (.only :: place)
    attempt place (s.filterAxes fun _ tag => .ok (.bool (wanted tag)))
  | map d f, place => do
    let s ← d.run (.only :: place)
    attempt place (s.mapAxes fun _ axis =>
      .ok (.tuple [.int (f axis).dimension, .tag (f axis).tag]))
  | pairs d, place => do
    let s ← d.run (.only :: place)
    attempt place (Shape.ofPairs (.pairsOf s))

/-! ## On lists -/

/-- The integer that the second bound of a slice of so many axes is. -/
def pastOf (rank : Nat) : Value → Option Int
  | .absent => some rank
  | past => past.integer?

/-- The axes between two bounds, if these are integers in order that are no more than the rank. -/
def segment (first past : Value) (axes : List Axis) : Option (List Axis) := do
  let b ← first.integer?
  let e ← pastOf axes.length past
  if 0 ≤ b ∧ b ≤ e ∧ e ≤ axes.length then some ((axes.take e.toNat).drop b.toNat) else none

/-- What `f` makes of the axes, if all of it can be dimensions. -/
def mapped (f : Axis → Axis) (axes : List Axis) : Option (List Axis) :=
  if ∀ axis ∈ axes, -1 ≤ (f axis).dimension then some (axes.map f) else none

/-- The result of a step on lists, or where it fails. -/
def orAt (place : Place) : Option (List Axis) → Except Place (List Axis)
  | some axes => .ok axes
  | none => .error place

/-- The axes that a derivation comes to, or the place of the first step that fails. -/
def denote : Derivation → Place → Except Place (List Axis)
  | leaf s, _ => .ok s.axes
  | slice d first past, place => do orAt place (segment first past (← d.denote (.only :: place)))
  | concatenate d e, place => do
    return (← d.denote (.left :: place)) ++ (← e.denote (.right :: place))
  | filter d wanted, place => do
    return (← d.denote (.only :: place)).filter fun axis => wanted axis.tag
  | map d f, place => do orAt place (mapped f (← d.denote (.only :: place)))
  | pairs d, place => d.denote (.only :: place)

/-! ## One step -/

/-- A step on shapes gives the shape of what the step on lists gives, or fails if that does. -/
def Simulates (work : Eval Shape) : Option (List Axis) → Prop
  | some axes => (Shape.ofAxes axes).Valid ∧ ∀ run, (work run).1 = .ok (.ofAxes axes)
  | none => ∀ run, ∃ failure, (work run).1 = .error failure

section Steps

variable {s t : Shape}

/-- A step that gives a valid shape simulates its axes. -/
theorem simulates_of_eq {work : Eval Shape} {axes : List Axis} (valid : s.Valid)
    (same : s.axes = axes) (h : ∀ run, (work run).1 = .ok s) : Simulates work (some axes) := by
  subst same
  have whole := Shape.ofAxes_axes valid
  exact ⟨by rwa [whole], fun run => by rw [h run, whole]⟩

theorem integer?_pastOr (s : Shape) (past : Value) :
    (s.pastOr past).integer? = pastOf s.rank past := by
  cases past <;> rfl

theorem boundOf_error (s : Shape) (bound : Bound) {v : Value} (h : v.integer? = none) (run : Run) :
    ∃ failure, (s.boundOf bound v run).1 = .error failure := by
  simp only [Shape.boundOf, h]
  rw [bind_apply]
  rcases Shape.reportedForms v run with ⟨failure | form, after⟩
  · exact ⟨failure, rfl⟩
  · exact ⟨_, rfl⟩

theorem simulates_slice (valid : s.Valid) (first past : Value) :
    Simulates (s.slice first past) (segment first past s.axes) := by
  rw [segment, valid.axes_length, ← integer?_pastOr]
  match hb : first.integer?, he : (s.pastOr past).integer? with
  | none, _ =>
    intro run
    obtain ⟨failure, failed⟩ := boundOf_error s .first hb run
    exact ⟨failure, bind_fst_of_error failed _⟩
  | some b, none =>
    intro run
    obtain ⟨failure, failed⟩ := boundOf_error s .past he run
    rw [Shape.slice, Shape.boundOf_eq s .first hb, pure_bind]
    exact ⟨failure, bind_fst_of_error failed _⟩
  | some b, some e =>
    simp only [Option.bind_eq_bind, Option.bind_some]
    split
    · rename_i order
      exact simulates_of_eq (valid.segment _ _) (s.axes_segment _ _) fun run => by
        rw [Shape.slice_eq valid hb he order]; rfl
    · rename_i disorder
      rw [Shape.slice_outside s hb he disorder]
      exact fun _ => ⟨_, rfl⟩

theorem simulates_concatenate (hs : s.Valid) (ht : t.Valid) :
    Simulates (s.concatenate (.shape t)) (some (s.axes ++ t.axes)) :=
  simulates_of_eq (hs.append ht) (s.axes_append t hs) fun run => by
    rw [Shape.concatenate_eq hs ht]; rfl

theorem simulates_filter (valid : s.Valid) (wanted : Tag → Bool) :
    Simulates (s.filterAxes fun _ tag => .ok (.bool (wanted tag)))
      (some (s.axes.filter fun axis => wanted axis.tag)) :=
  simulates_of_eq (valid.keep wanted) (s.axes_keep wanted) fun run => by
    have answers (call : Nat) (tag : Tag) : ∃ v : Value,
        (Except.ok (.bool (wanted tag)) : Except String Value) = .ok v ∧
          v.truthy = .ok (wanted tag) := ⟨_, rfl, rfl⟩
    rw [Shape.filterAxes_apply valid answers, Shape.chosen_of_tag]
    rfl

theorem simulates_pairs (valid : s.Valid) :
    Simulates (Shape.ofPairs (.pairsOf s)) (some s.axes) :=
  simulates_of_eq valid rfl fun run => by rw [Shape.ofPairs_pairsOf valid]; rfl

theorem simulates_map (valid : s.Valid) (f : Axis → Axis) :
    Simulates (s.mapAxes fun _ axis => .ok (.tuple [.int (f axis).dimension, .tag (f axis).tag]))
      (mapped f s.axes) := by
  unfold mapped
  split
  · rename_i bounded
    have fits : (Shape.ofAxes (s.axes.map f)).Valid :=
      Shape.valid_ofAxes_iff.mpr (List.forall_mem_map.mpr bounded)
    refine simulates_of_eq fits (Shape.axes_ofAxes _) fun run => ?_
    have made := Shape.ofParts_eq fits
    rw [List.map_map] at made
    rw [Shape.mapAxes_apply valid f run]
    exact congrArg Prod.fst (congrFun made _)
  · rename_i unbounded
    intro run
    -- the constructor refuses, and its failure is that of the refusal or that of logging it
    rw [Shape.mapAxes_apply valid f run, Shape.ofParts, Shape.ofArguments_tuple]
    apply Shape.construct_fails
    rintro ⟨dimensions, fit⟩
    apply unbounded
    intro axis held
    have integer : some (f axis).dimension ∈ dimensions.map some := by
      rw [← fit.integers, List.map_map, List.map_map]
      exact List.mem_map_of_mem held
    obtain ⟨d, member, same⟩ := List.mem_map.mp integer
    exact Option.some.inj same ▸ fit.bounded d member

end Steps

/-! ## Whole derivations -/

/-- A computation gives the shape of what a list program gives, or fails where that does. -/
structure Agrees (work : ExceptT Place (StateM Run) Shape) (result : Except Place (List Axis)) :
    Prop where
  gives : ∀ run, (work run).1 = result.map .ofAxes
  valid : ∀ axes, result = .ok axes → (Shape.ofAxes axes).Valid

namespace Agrees

variable {work : ExceptT Place (StateM Run) Shape} {result : Except Place (List Axis)}

theorem attempt {work : Eval Shape} {result : Option (List Axis)} (place : Place)
    (h : Simulates work result) : Agrees (attempt place work) (orAt place result) := by
  have placed (run : Run) :
      (Derivation.attempt place work run).1 = (work run).1.mapError fun _ => place := rfl
  cases result with
  | some axes =>
    refine ⟨fun run => ?_, fun _ e => by cases e; exact h.1⟩
    rw [placed, h.2 run]
    rfl
  | none =>
    refine ⟨fun run => ?_, nofun⟩
    obtain ⟨failure, failed⟩ := h run
    rw [placed, failed]
    rfl

theorem bind {next : Shape → ExceptT Place (StateM Run) Shape}
    {rest : List Axis → Except Place (List Axis)} (first : Agrees work result)
    (second : ∀ s, s.Valid → Agrees (next s) (rest s.axes)) :
    Agrees (work >>= next) (result >>= rest) := by
  cases result with
  | error place =>
    refine ⟨fun run => ?_, nofun⟩
    have failed := first.gives run
    rw [bind_apply]
    match e : work run with
    | (.ok s, between) => rw [e] at failed; cases failed
    | (.error place', between) => rw [e] at failed; exact failed
  | ok axes =>
    have valid := first.valid axes rfl
    have second := second _ valid
    rw [Shape.axes_ofAxes] at second
    refine ⟨fun run => ?_, second.valid⟩
    have given := first.gives run
    rw [bind_apply]
    match e : work run with
    | (.ok s, between) =>
      rw [e] at given
      cases given
      exact second.gives between
    | (.error place, between) => rw [e] at given; cases given

end Agrees

/-- Each step carries the agreement from its branches on. -/
theorem agrees {d : Derivation} (h : d.Grounded) (place : Place) :
    Agrees (d.run place) (d.denote place) := by
  induction d generalizing place with
  | leaf s =>
    have whole := Shape.ofAxes_axes h
    refine ⟨fun run => ?_, fun axes e => ?_⟩
    · change .ok s = Except.ok (Shape.ofAxes s.axes)
      rw [whole]
    · cases e
      exact whole.symm ▸ h
  | slice d first past ih =>
    exact (ih h _).bind fun s valid => .attempt place (simulates_slice valid first past)
  | concatenate d e ihd ihe =>
    -- the right branch is not entered if the left one fails
    refine (ihd h.1 _).bind fun s hs => (ihe h.2 _).bind fun t ht => ?_
    exact .attempt place (simulates_concatenate hs ht)
  | filter d wanted ih =>
    exact (ih h _).bind fun s valid => .attempt place (simulates_filter valid wanted)
  | map d f ih => exact (ih h _).bind fun s valid => .attempt place (simulates_map valid f)
  | pairs d ih =>
    have agrees := (ih h (.only :: place)).bind fun s valid =>
      Agrees.attempt place (simulates_pairs valid)
    have unchanged : (d.denote (.only :: place) >>= Except.ok) = d.denote (.only :: place) :=
      bind_pure _
    rw [unchanged] at agrees
    exact agrees

end Derivation

/-- **Derivations are list programs.**  Carried out on shapes, a derivation from valid shapes comes
to a valid shape with the axes that it comes to on lists, or fails in the same place. -/
theorem Derivation.run_denotes {d : Derivation} (h : d.Grounded) (state : Run) :
    (d.run [] state).1.map Shape.axes = d.denote [] ∧
      ∀ s, (d.run [] state).1 = .ok s → s.Valid := by
  obtain ⟨gives, valid⟩ := agrees h []
  rw [gives state]
  constructor
  · cases d.denote [] with
    | ok axes => exact congrArg Except.ok (Shape.axes_ofAxes axes)
    | error place => rfl
  · intro s given
    match e : d.denote [] with
    | .ok axes =>
      rw [e] at given
      cases given
      exact valid axes e
    | .error place =>
      rw [e] at given
      cases given

/-- Taking six from a dimension of four fails, on the right of the join of which it is a part. -/
theorem Derivation.run_denotes_failing :
    let d : Derivation := .concatenate
      (.slice (.leaf ⟨[2, 3], [.batch, .unknown]⟩) (.int 1) .absent)
      (.map (.leaf ⟨[4], [.width]⟩) fun axis => ⟨axis.dimension - 6, axis.tag⟩)
    d.Grounded ∧ (d.run [] ⟨.off, [], [], []⟩).1.map Shape.axes = .error [.right] := by
  intro d
  have left : Shape.Valid ⟨[2, 3], [.batch, .unknown]⟩ := by decide
  have right : Shape.Valid ⟨[4], [.width]⟩ := by decide
  have grounded : d.Grounded := ⟨left, right⟩
  exact ⟨grounded, (run_denotes grounded _).1⟩

end TensorShape

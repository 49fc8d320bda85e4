import TensorShape.Proofs.Upkeep

/-! # Where values come from

A value can hold others at any depth, and so can what a cursor still has to give.  `All`
says of a property that everything has it that is held there and holds nothing itself.
Taking a value apart, drawing items and writing bring nothing new about, so whatever
property everything has beforehand it has afterwards (`Upkeep.all`), as long as
integers, truth values, text and cursors may come up at any time (`Granted`).

For properties of shapes alone this is `AllShapes`: a shape that is new has been
checked. -/
namespace TensorShape

namespace Value

mutual

/-- Everything that a value holds and that holds nothing itself has a property, and so has every
live view. -/
def All (P : Value → Prop) : Value → Prop
  | list items => AllItems P items
  | tuple items => AllItems P items
  | dict entries => AllPairs P entries
  | axisPair x t => All P x ∧ All P t
  | iterable _ _ items => AllItems P items
  | mapping _ _ entries => AllPairs P entries
  | tensor _ v => All P v
  | view _ pairs _ _ => AllPairs P pairs
  | v@(liveView _ first second) => P v ∧ All P first ∧ All P second
  | v => P v

/-- Everything that some values hold and that holds nothing itself has a property. -/
def AllItems (P : Value → Prop) : List Value → Prop
  | [] => True
  | v :: rest => All P v ∧ AllItems P rest

/-- Everything that the places of some pairs hold and that holds nothing itself has a property. -/
def AllPairs (P : Value → Prop) : List (Value × Value) → Prop
  | [] => True
  | (x, t) :: rest => (All P x ∧ All P t) ∧ AllPairs P rest

end

variable {P : Value → Prop}

theorem allItems_iff {items : List Value} : AllItems P items ↔ ∀ v ∈ items, v.All P := by
  induction items with
  | nil => simp [AllItems]
  | cons v rest ih => simp [AllItems, ih]

theorem allPairs_iff {pairs : List (Value × Value)} :
    AllPairs P pairs ↔ ∀ p ∈ pairs, p.1.All P ∧ p.2.All P := by
  induction pairs with
  | nil => simp [AllPairs]
  | cons p rest ih => simp [AllPairs, ih]

/-- What may come up at any time has the property. -/
structure Granted (P : Value → Prop) : Prop where
  int : ∀ n, P (.int n)
  bool : ∀ b, P (.bool b)
  text : ∀ t, P (.text t)
  cursor : ∀ kind place, P (.cursor kind place)
  /-- A label makes no difference to a live view. -/
  relabelled : ∀ label label' first second,
    P (.liveView label first second) → P (.liveView label' first second)
  /-- Values of which one has to be drawn from may be paired. -/
  paired : ∀ first second, first.isIterable = true → second.isIterable = true →
    first.pass? = none ∨ second.pass? = none → All P first → All P second →
    P (.liveView none first second)

/-- A value holds what the values in it hold. -/
theorem hereditary_all (granted : Granted P) : Hereditary (All P) where
  int := granted.int
  bool := granted.bool
  text := granted.text
  list _ := allItems_iff
  tuple _ := allItems_iff
  dict _ := allPairs_iff
  axisPair _ _ := Iff.rfl
  iterable _ _ _ := allItems_iff
  mapping _ _ _ := allPairs_iff
  tensor _ _ := Iff.rfl
  view _ _ _ _ := allPairs_iff
  liveView _ _ _ h := h.2
  relabelled _ label' _ _ h := ⟨granted.relabelled _ label' _ _ h.1, h.2⟩
  paired first second iterable iterable' drawn h h' :=
    ⟨granted.paired first second iterable iterable' drawn h h', h, h'⟩

end Value

namespace Source

/-- Everything that a source holds itself has a property. -/
def All (P : Value → Prop) : Source → Prop
  | own pass => ∀ item ∈ pass.items, item.All P
  | shared _ => True
  | zip first second => All P first ∧ All P second

variable {P : Value → Prop}

theorem all_iff (granted : Value.Granted P) {source : Source} :
    source.All P ↔ source.Holds (Value.All P) := by
  induction source with
  | own pass => rfl
  | shared place => exact iff_of_true trivial ⟨.extents, granted.cursor _ _⟩
  | zip first second ihFirst ihSecond => exact and_congr ihFirst ihSecond

end Source

/-- Everything that the cursors have still to give has a property. -/
def AllInCursors (P : Value → Prop) (cursors : List Source) : Prop :=
  ∀ source ∈ cursors, source.All P

namespace Upkeep

variable {P : Value → Prop}

/-- Every property that may be granted, and that all checked shapes have, is kept up. -/
def all (granted : Value.Granted P) (valid : ∀ s : Shape, s.Valid → P (.shape s)) : Upkeep where
  Held := Value.All P
  Kept := AllInCursors P
  Fails _ := True
  hereditary := Value.hereditary_all granted
  shape := valid
  source cursors _ place kept _ := by
    rw [List.getD_eq_getElem?_getD]
    cases e : cursors[place]? with
    | none => exact Source.holds_ended _
    | some source => exact (Source.all_iff granted).mp (kept source (List.mem_of_getElem? e))
  set _ _ _ _ kept _ new _ held :=
    (List.mem_or_eq_of_mem_set held).elim (kept _) fun e => e ▸ (Source.all_iff granted).mpr new
  fails _ _ := trivial

/-- No such property keeps cursors from being opened. -/
theorem opens_all (granted : Value.Granted P) (valid : ∀ s : Shape, s.Valid → P (.shape s)) :
    (all granted valid).Opens := by
  intro cursors kind source kept held
  refine ⟨fun s found => ?_, granted.cursor _ _⟩
  obtain old | rfl := by simpa using found
  · exact kept s old
  · exact (Source.all_iff granted).mpr held

end Upkeep

/-! ## Shapes -/

variable {P : Shape → Prop}

/-- A value is a shape with a property, or no shape. -/
def Value.IfShape (P : Shape → Prop) : Value → Prop
  | shape s => P s
  | _ => True

/-- All shapes that a value holds have a property. -/
abbrev Value.AllShapes (P : Shape → Prop) : Value → Prop := All (IfShape P)

end TensorShape

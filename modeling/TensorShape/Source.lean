import TensorShape.Value

/-! # Sources

A source gives items one at a time.  A value that holds its items gives them to
each pass anew.  A cursor is shared: whoever draws from it takes the item from
all others.  A live view pairs two sources, and so uses up the cursors among
them.

`Draw` is what drawing amounts to: a computation that changes where the cursors
stand and may meet a fault.  The source of a cursor draws from earlier cursors
only, since a cursor is made of values that were there before it. -/
namespace TensorShape

/-- Where items come from. -/
inductive Source where
  /-- Items that nobody else can draw. -/
  | own (pass : Pass)
  /-- The items of the cursor at a place. -/
  | shared (place : Nat)
  /-- Pairs of the items of two sources. -/
  | zip (first second : Source)
  deriving Inhabited

/-- Computations that draw items.  Their state is what each cursor draws from, by place. -/
abbrev Draw := ExceptT Fault (StateM (List Source))

namespace Source

/-- The source that has nothing left. -/
def ended : Source := own .ended

/-- The number of items that a source holds itself. -/
def held : Source → Nat
  | own pass => pass.items.length
  | shared _ => 0
  | zip first second => first.held + second.held

/-- The next item of a source, if any, and the source of the items after it, given how to draw from
the cursor at a place.  A pairing draws from its first source and then from its second, even if the
first has ended.  Where only one of them gives an item that item is lost, and the pairing breaks
off. -/
def nextWith (advance : Nat → Draw (Option Value)) : Source → Draw (Option (Value × Source))
  | own pass => do return (← pass.next?).map fun step => (step.1, own step.2)
  | shared place => do return (← advance place).map fun item => (item, shared place)
  | zip first second => do
    match ← nextWith advance first with
    | none =>
      match ← nextWith advance second with
      | none => return none
      | some _ => throw .secondLonger
    | some (x, first) =>
      match ← nextWith advance second with
      | none => throw .secondShorter
      | some (y, second) => return some (.axisPair x y, zip first second)

end Source

namespace Draw

/-- The next item of the cursor at a place, for a cursor that draws from others through fewer than
`depth` cursors.  A cursor that gives no item is at its end for good. -/
def advanceWithin : Nat → Nat → Draw (Option Value)
  | 0, _ => return none
  | depth + 1, place => do
    let source := (← get).getD place .ended
    modify (·.set place .ended)
    match ← source.nextWith (advanceWithin depth) with
    | none => return none
    | some (item, rest) =>
      modify (·.set place rest)
      return some item

/-- The next item of the cursor at a place. -/
def advance (place : Nat) : Draw (Option Value) := do
  advanceWithin (← get).length place

/-- The next item of a source, if any, and the source of the items after it. -/
def next (source : Source) : Draw (Option (Value × Source)) := source.nextWith advance

/-- The number of items that the cursors hold. -/
def supply : Draw Nat := do
  return ((← get).map Source.held).foldr (· + ·) 0

end Draw

namespace Value

/-- Where a pass over a value draws its items from. -/
def source : Value → Except Fault Source
  | cursor _ place => .ok (.shared place)
  | liveView _ first second => do return .zip (← first.source) (← second.source)
  | v =>
    match v.pass? with
    | some pass => .ok (.own pass)
    | none => .error (.notIterable v.typeName)

/-- The two items of a value that has exactly two.  Finding out takes up to three items. -/
def pair? (v : Value) : Draw (Option (Value × Value)) :=
  tryCatch taken fun _ => return none
where
  /-- The two items, unless a fault is met. -/
  taken : Draw (Option (Value × Value)) := do
    let some (x, rest) ← Draw.next (← v.source) | return none
    let some (y, rest) ← Draw.next rest | return none
    match ← Draw.next rest with
    | none => return some (x, y)
    | some _ => return none

end Value
end TensorShape

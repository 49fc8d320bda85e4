import TensorShape.Fault
import TensorShape.Shape
import TensorShape.Text

/-! # Values

Callers hand over values of any kind, and what an operation makes of one is
settled when it runs.  Three questions are asked of a value here.  `integer?`:
does it count as an integer (truth values do not)?  `pass?`: what does one pass
over it yield, if the value holds its items itself?  `truthy`: does it count as
true?  Objects of a caller's own class bring the name of the class and their form in
print along, and answer by what kind of thing they are.

A pass yields items and may break off with a fault at the end.  A cursor stands
for a pass that is being used up and that is kept elsewhere, so a value by itself
does not tell what a cursor still has to give.

A view is a list of pairs of the items of two values, which breaks off where one
of them runs out before the other.  If both values hold their items, the view is
kept as what one pass over it yields.  If one of them is a cursor the view is
live: every pass over it goes on where the cursor stands, and uses it up. -/
namespace TensorShape

/-- What a cursor walks along: the places of a tuple or the extents of a shape, the pairs of a view,
or something with cursors of a class of its own. -/
inductive CursorKind where
  | extents
  | pairs
  | others (typeName : String)
  deriving DecidableEq, Repr

/-- The name of the class of a cursor. -/
def CursorKind.typeName : CursorKind → String
  | extents => "tuple_iterator"
  | pairs => "generator"
  | others typeName => typeName

/-- What an object of a caller's own class shows: the name of the class, and the object in print. -/
structure Object where
  typeName : String
  form : String
  deriving DecidableEq, Repr, Inhabited

/-- How the items of an object are reached: by the cursors that it gives out, which belong to a
class, or one by one by their positions. -/
inductive Access where
  | cursors (typeName : String)
  | positions
  deriving DecidableEq, Repr

/-- A value of any kind. -/
inductive Value where
  /-- The value that stands for no value. -/
  | absent
  | bool (b : Bool)
  | int (n : Int)
  /-- A floating-point number, known by its decimal form. -/
  | float (decimal : String)
  | text (t : Text)
  | list (items : List Value)
  | tuple (items : List Value)
  | dict (entries : List (Value × Value))
  | bytes (octets : List UInt8)
  | shape (s : Shape)
  /-- A tuple of an extent and a tag whose two places have names. -/
  | axisPair (extent tag : Value)
  /-- Something that is no integer but can stand for one.  It may also compare with integers. -/
  | index (object : Object) (compares : Bool) (n : Int)
  /-- Something that can be passed over any number of times and has no length. -/
  | iterable (object : Object) (access : Access) (items : List Value)
  /-- Something other than a dictionary that holds values by their keys. -/
  | mapping (object : Object) (cursors : String) (entries : List (Value × Value))
  /-- Something that has a shape. -/
  | tensor (object : Object) (shape : Value)
  /-- Something without any feature. -/
  | featureless (object : Object)
  /-- A view of two values that hold their items.  A label tells kept views apart. -/
  | view (label : Option Nat) (pairs : List (Value × Value)) (fault : Option Fault)
    (length : Except Fault Nat)
  /-- A view of two values of which one is a cursor or again such a view. -/
  | liveView (label : Option Nat) (first second : Value)
  | cursor (kind : CursorKind) (place : Nat)
  deriving Inhabited

/-- What going through a value once yields: its items, and the fault that ends it, if one does. -/
structure Pass where
  items : List Value
  fault : Option Fault
  deriving Inhabited

namespace Pass

/-- A pass that ends well. -/
def ofList (items : List Value) : Pass := ⟨items, none⟩

/-- The pass that has nothing left. -/
def ended : Pass := ofList []

/-- The next item, if any, and what is left after it.  A fault is met after the last item. -/
def next? : Pass → Except Fault (Option (Value × Pass))
  | ⟨item :: rest, fault⟩ => .ok (some (item, ⟨rest, fault⟩))
  | ⟨[], none⟩ => .ok none
  | ⟨[], some fault⟩ => .error fault

/-- Pairs the items of two passes.  The pairing breaks off with a fault when one pass runs out and
the other does not, or where either pass does. -/
def zip (p q : Pass) : List (Value × Value) × Option Fault :=
  pairs p.items q.items
where
  /-- The pairing of what is left of both passes. -/
  pairs : List Value → List Value → List (Value × Value) × Option Fault
    | x :: xs, y :: ys => ((x, y) :: (pairs xs ys).1, (pairs xs ys).2)
    | _ :: _, [] => ([], some (q.fault.getD .secondShorter))
    | [], _ :: _ => ([], some (p.fault.getD .secondLonger))
    | [], [] => ([], p.fault.or q.fault)

end Pass

namespace Value

/-- Plain text. -/
def plain (s : String) : Value := text (.plain s)

/-- A tag. -/
def tag (t : Tag) : Value := text (.tag t)

/-- Items that are produced as they are asked for. -/
def generated (items : List Value) : Value :=
  iterable ⟨"generator", "<generator object>"⟩ (.cursors "generator") items

/-- The two places of an axis. -/
def ofAxis (axis : Axis) : Value := axisPair (int axis.dimension) (tag axis.tag)

/-- The dimensions of a shape. -/
def dimensions (s : Shape) : List Value := s.dimensions.map int

/-- The tags of a shape. -/
def layout (s : Shape) : List Value := s.layout.map tag

/-- The name of the kind of value. -/
def typeName : Value → String
  | absent => "NoneType"
  | bool _ => "bool"
  | int _ => "int"
  | float _ => "float"
  | text t => t.typeName
  | list _ => "list"
  | tuple _ => "tuple"
  | dict _ => "dict"
  | bytes _ => "bytes"
  | shape _ => "Shape"
  | axisPair _ _ => "AxisPair"
  | index object _ _ => object.typeName
  | iterable object _ _ => object.typeName
  | mapping object _ _ => object.typeName
  | tensor object _ => object.typeName
  | featureless object => object.typeName
  | view _ _ _ _ => "AxisPairs"
  | liveView _ _ _ => "AxisPairs"
  | cursor kind _ => kind.typeName

/-- The integer that a value is or stands for.  A truth value stands for none. -/
def integer? : Value → Option Int
  | int n => some n
  | index _ _ n => some n
  | _ => none

/-- Whether a value that counts as an integer compares with integers. -/
def isComparable : Value → Bool
  | index _ compares _ => compares
  | _ => true

/-- What one pass over a value yields, if the value holds its items itself. -/
def pass? : Value → Option Pass
  | text t => some (.ofList (t.content.toList.map fun c => plain c.toString))
  | list items => some (.ofList items)
  | tuple items => some (.ofList items)
  | dict entries => some (.ofList (entries.map Prod.fst))
  | bytes octets => some (.ofList (octets.map fun o => int o.toNat))
  | shape s => some (.ofList (dimensions s))
  | axisPair x t => some (.ofList [x, t])
  | iterable _ _ items => some (.ofList items)
  | mapping _ _ entries => some (.ofList (entries.map Prod.fst))
  | view _ pairs fault _ => some ⟨pairs.map fun p => axisPair p.1 p.2, fault⟩
  | _ => none

/-- The entries of a value that holds values by their keys. -/
def entries? : Value → Option (List (Value × Value))
  | dict entries => some entries
  | mapping _ _ entries => some entries
  | _ => none

/-- Whether a value can be gone through at all. -/
def isIterable : Value → Bool
  | cursor _ _ => true
  | liveView _ _ _ => true
  | v => v.pass?.isSome

/-- Whether a value says of itself that it can be gone through.  What reaches its items by their
positions only does not. -/
def isDeclaredIterable : Value → Bool
  | iterable _ .positions _ => false
  | v => v.isIterable

/-- The number of items, for the kinds that know it. -/
def length : Value → Except Fault Nat
  | text t => .ok t.content.length
  | list items => .ok items.length
  | tuple items => .ok items.length
  | dict entries => .ok entries.length
  | bytes octets => .ok octets.length
  | shape s => .ok s.rank
  | axisPair _ _ => .ok 2
  | mapping _ _ entries => .ok entries.length
  | view _ _ _ length => length
  | liveView _ first _ => first.length
  | v => .error (.noLength v.typeName)

/-- Whether a decimal form denotes zero. -/
def isZeroDecimal (decimal : String) : Bool := decimal == "0.0" || decimal == "-0.0"

/-- Whether a value counts as true.  What has a length counts as true unless the length is zero,
numbers unless they are zero, and everything without a feature of that sort always. -/
def truthy : Value → Except Fault Bool
  | absent => .ok false
  | bool b => .ok b
  | int n => .ok (n ≠ 0)
  | float decimal => .ok (!isZeroDecimal decimal)
  | index _ _ _ => .ok true
  | iterable _ _ _ => .ok true
  | tensor _ _ => .ok true
  | featureless _ => .ok true
  | cursor _ _ => .ok true
  | v => v.length.map (· ≠ 0)

/-- Whether a value has a shape. -/
def isShaped : Value → Bool
  | tensor _ _ => true
  | _ => false

/-- The view that pairs the items of two values.  If one of them cannot be gone through, going
through the view meets that at once. -/
def viewOver (first second : Value) : Value :=
  if !first.isIterable then broken first.typeName
  else if !second.isIterable then broken second.typeName
  else
    match first.pass?, second.pass? with
    | some p, some q => view none (p.zip q).1 (p.zip q).2 first.length
    | _, _ => liveView none first second
where
  /-- The view over something of a kind that cannot be gone through. -/
  broken (typeName : String) : Value := view none [] (some (.notIterable typeName)) first.length

/-- The view of the dimensions and the tags of a shape. -/
def pairsOf (s : Shape) : Value := viewOver (tuple (dimensions s)) (tuple (layout s))

end Value
end TensorShape

import TensorShape.Source

/-! # Values in print

`write` gives the unambiguous form of a value and `display` its form for a
reader; they differ for text and for shapes only, and only at the top.  A view is
written by going through it, so a view that breaks off with a fault, or whose
second places have no names, cannot be written, and neither can anything that
holds one; the same goes for an integer of too many digits.  Writing a live view
uses its cursors up.

`writeWith` writes all that a value holds itself and is told how to write a
source.  Every pair that a live view gives takes an item of a cursor, so the
number of those items bounds how far `writeDrawn` goes, along a view and from a
view into one that it holds; `write_eq_of_total_lt` says that it is not cut off. -/
namespace TensorShape

/-- The form of a view, given those of its pairs. -/
def viewInPrint (pairs : List String) : String :=
  "AxisPairs(" ++ Sequence.inSquare pairs ++ ")"

namespace Value

/-- The form for a reader, given how to find the unambiguous form. -/
def displayedAs (form : Draw String) : Value → Draw String
  | text t => return t.displayed
  | shape s => Fault.showing s.dimensions s.display
  | _ => form

/-- The name of a tag or a code; nothing else has one. -/
def memberName : Value → Except Fault String
  | v@(text t) =>
    match t.memberName? with
    | some name => .ok name
    | none => .error (.noFeature v.typeName "name")
  | v => .error (.noFeature v.typeName "name")

/-- A pair in print: the first place for a reader, and the name of the second. -/
def pairInPrint (form : Draw String) (x t : Value) : Draw String := do
  let x ← displayedAs form x
  let name ← memberName t
  return Sequence.inRound [x, name]

mutual

/-- The unambiguous form of a value, given how to write what a live view gives. -/
def writeWith (live : Source → Draw String) : Value → Draw String
  | absent => return "None"
  | bool b => return if b then "True" else "False"
  | int n => Fault.showing [n] (toString n)
  | float decimal => return decimal
  | text t => return t.written
  | list items => do return Sequence.inSquare (← writeItems live items)
  | tuple items => do return Sequence.asTuple (← writeItems live items)
  | dict entries => do return Sequence.inCurly (← writeEntries live entries)
  | bytes octets => return Quoted.quoteOctets octets
  | shape s => Fault.showing s.dimensions s.written
  | axisPair x t => do
    let x ← writeWith live x
    let t ← writeWith live t
    return "AxisPair(dimension=" ++ x ++ ", layout=" ++ t ++ ")"
  | index object _ _ => return object.form
  | iterable object _ _ => return object.form
  | mapping object _ _ => return object.form
  | tensor object _ => return object.form
  | featureless object => return object.form
  | view _ pairs fault _ => do
    let parts ← writePairs live pairs
    match fault with
    | some fault => throw fault
    | none => return viewInPrint parts
  | v@(liveView _ _ _) => do live (← v.source)
  | v@(cursor _ _) => return "<" ++ v.typeName ++ " object>"

/-- The unambiguous forms of some values, in order. -/
def writeItems (live : Source → Draw String) : List Value → Draw (List String)
  | [] => return []
  | item :: rest => do
    let form ← writeWith live item
    return form :: (← writeItems live rest)

/-- The unambiguous forms of keys and their values, in order. -/
def writeEntries (live : Source → Draw String) : List (Value × Value) → Draw (List String)
  | [] => return []
  | (key, value) :: rest => do
    let key ← writeWith live key
    let value ← writeWith live value
    return (key ++ ": " ++ value) :: (← writeEntries live rest)

/-- Pairs in print, in order. -/
def writePairs (live : Source → Draw String) : List (Value × Value) → Draw (List String)
  | [] => return []
  | (x, t) :: rest => do
    let form ← pairInPrint (writeWith live x) x t
    return form :: (← writePairs live rest)

end

/-- The pairs that a source gives, in print, if the cursors hold fewer than `bound` items. -/
def writeDrawn : Nat → Source → Draw (List String)
  | 0, _ => return []
  | bound + 1, source => do
    match ← Draw.next source with
    | none => return []
    | some (pair, rest) =>
      let form ← writeDrawnPair (fun inner => viewInPrint <$> writeDrawn bound inner) pair
      return form :: (← writeDrawn bound rest)
where
  /-- A drawn item in print, which must have the places of a pair. -/
  writeDrawnPair (live : Source → Draw String) : Value → Draw String
    | axisPair x t => pairInPrint (writeWith live x) x t
    | v => throw (.noFeature v.typeName "dimension")

/-- The unambiguous form of a value. -/
def write (v : Value) : Draw String := do
  let supply ← Draw.supply
  writeWith (fun source => viewInPrint <$> writeDrawn (supply + 1) source) v

/-- The form of a value for a reader. -/
def display (v : Value) : Draw String := displayedAs v.write v

end Value
end TensorShape

import TensorShape.Cause
import TensorShape.Shape

/-! # Measures of a shape

What can be asked of every shape without further arguments, apart from its ends,
which a shape without axes does not have. -/
namespace TensorShape.Shape

/-- The number of positions of a grid with some sides, unknown if one of the sides is. -/
def gridSize (sides : List Int) : Int :=
  if Extent.unknownMark ∈ sides then Extent.unknownMark else sides.foldr (· * ·) 1

/-- The number of positions of the whole tensor. -/
def size (s : Shape) : Int := gridSize s.dimensions

/-- How many axes have no known extent. -/
def unknownCount (s : Shape) : Nat := s.dimensions.count Extent.unknownMark

/-- How many of some dimensions, from the first on, are one. -/
def onesAhead (dimensions : List Int) : Nat := (dimensions.takeWhile (· = 1)).length

/-- How many axes in a row, from the first on, have dimension one. -/
def leadingOnes (s : Shape) : Nat := onesAhead s.dimensions

/-- How many axes in a row, from the last on, have dimension one. -/
def trailingOnes (s : Shape) : Nat := onesAhead s.dimensions.reverse

/-- There are no axes. -/
def isScalar (s : Shape) : Bool := s.rank = 0

/-- There are two axes. -/
def isMatrix (s : Shape) : Bool := s.rank = 2

/-- Every axis is tagged with something it is for. -/
def isLayoutKnown (s : Shape) : Bool := Layout.isKnown s.layout

/-- The dimension of the first axis. -/
def head (s : Shape) : Except Cause Int :=
  match s.dimensions.head? with
  | some d => .ok d
  | none => .error (.noAxisAt .head)

/-- The dimension of the last axis. -/
def tail (s : Shape) : Except Cause Int :=
  match s.dimensions.getLast? with
  | some d => .ok d
  | none => .error (.noAxisAt .tail)

end TensorShape.Shape

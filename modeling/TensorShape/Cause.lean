import TensorShape.Diagnostic
import TensorShape.Shape

/-! # Causes of rejection

A cause is one way in which an input can be wrong, with what is needed to tell
the caller.  Each cause has one diagnostic: `code` fixes its family, and `wording`,
`help`, `related` and `data` fill it in.  Values enter a cause in their
written form, so that a cause never holds more of the input than it reports. -/
namespace TensorShape

/-- The two questions that take axes. -/
inductive AxisQuery where
  | get
  | size
  deriving DecidableEq, Repr

/-- The two ends of a shape. -/
inductive End where
  | head
  | tail
  deriving DecidableEq, Repr

/-- The two bounds of a slice: the first axis taken, and the first one no longer taken. -/
inductive Bound where
  | first
  | past
  deriving DecidableEq, Repr

/-- The questions that only a matrix answers. -/
inductive MatrixQuery where
  | rows
  | columns
  | isSquare
  | isColumnVector
  | isRowVector
  | isVectorMatrix
  deriving DecidableEq, Repr

/-- The name of a question about axes. -/
def AxisQuery.name : AxisQuery → String
  | get => "get"
  | size => "size"

/-- The name of an end. -/
def End.name : End → String
  | head => "head"
  | tail => "tail"

/-- The name of a bound. -/
def Bound.name : Bound → String
  | first => "begin"
  | past => "end"

/-- All questions that only a matrix answers. -/
def MatrixQuery.all : List MatrixQuery :=
  [rows, columns, isSquare, isColumnVector, isRowVector, isVectorMatrix]

/-- The name of a question about matrices. -/
def MatrixQuery.name : MatrixQuery → String
  | rows => "rows"
  | columns => "columns"
  | isSquare => "is_square"
  | isColumnVector => "is_column_vector"
  | isRowVector => "is_row_vector"
  | isVectorMatrix => "is_vector_matrix"

/-- One way in which an input can be wrong. -/
inductive Cause where
  /-- The only argument is no integer and no sequence of dimensions either. -/
  | notDimensions (typeName : String)
  | truthValueDimension (axis : Nat)
  | nonIntegerDimension (axis : Nat) (typeName : String)
  | dimensionTooSmall (axis : Nat) (dimension : Int)
  | untaggedEntry (typeName : String)
  | unequalLengths (rank tags : Nat)
  | malformedPair (axis : Nat) (form : String)
  /-- A layout has a letter that spells no tag. -/
  | strayLetter (layout : Text) (stray : StrayLetter)
  /-- Something offered as one letter spells no tag. -/
  | notALetter (offered : Text) (form : String)
  /-- The value is in print as the wording shows it and as the data hold it. -/
  | axisOutOfRange (query : AxisQuery) (shown form : String) (rank : Nat)
  | nonIntegerBound (bound : Bound) (shown form : String) (rank : Nat)
  | invalidSlice (first past : Int) (rank : Nat)
  | noAxisAt (which : End)
  | notAMatrix (query : MatrixQuery) (rank : Nat) (display : String)
  deriving DecidableEq, Repr

namespace Cause

/-- The code of the diagnostic. -/
def code : Cause → Code
  | notDimensions _ => .invalidShape
  | truthValueDimension _ => .invalidShape
  | nonIntegerDimension _ _ => .invalidShape
  | dimensionTooSmall _ _ => .invalidShape
  | untaggedEntry _ => .invalidShape
  | unequalLengths _ _ => .invalidShape
  | malformedPair _ _ => .invalidShape
  | strayLetter _ _ => .invalidLayout
  | notALetter _ _ => .invalidLayout
  | axisOutOfRange _ _ _ _ => .indexOutOfRange
  | nonIntegerBound _ _ _ _ => .indexOutOfRange
  | invalidSlice _ _ _ => .indexOutOfRange
  | noAxisAt _ => .indexOutOfRange
  | notAMatrix _ _ _ => .notAMatrix

/-- The parts of the wording. -/
def wording : Cause → List String
  | notDimensions _ => ["shape dimensions must be integers or one sequence of integers"]
  | truthValueDimension axis =>
    ["dimension at axis ", toString axis, " must be an integer, got bool"]
  | nonIntegerDimension axis typeName =>
    ["dimension at axis ", toString axis, " must be an integer, got ", typeName]
  | dimensionTooSmall axis dimension =>
    ["dimension at axis ", toString axis, " must be >= -1, got ", toString dimension]
  | untaggedEntry _ => ["layout entries must be LayoutType members"]
  | unequalLengths rank tags =>
    ["shape and layout must have the same length: ", toString rank, " dimensions, ", toString tags,
      " layout tags"]
  | malformedPair axis form =>
    ["axis ", toString axis, " must be a (dimension, layout) pair, got ", form]
  | strayLetter layout stray =>
    ["unrecognized layout character ", Quoted.quote stray.char.toString, " at position ",
      toString stray.position, " in ", layout.written]
  | notALetter _ form => ["unrecognized layout character: ", form]
  | axisOutOfRange _ shown _ rank =>
    ["axis ", shown, " is out of range for shape of rank ", toString rank]
  | nonIntegerBound bound shown _ _ => ["slice ", bound.name, " must be an integer, got ", shown]
  | invalidSlice first past rank =>
    ["invalid slice [", toString first, ", ", toString past, ") for shape of rank ", toString rank]
  | noAxisAt which => ["cannot take the ", which.name, " of a scalar shape"]
  | notAMatrix query rank _ => [query.name, " requires a rank-2 shape, got rank ", toString rank]

/-- The wording. -/
def message (cause : Cause) : String := String.join cause.wording

/-- The hint. -/
def help : Cause → Option String
  | dimensionTooSmall _ _ => some "use -1 for an unknown dimension"
  | strayLetter _ _ => some ("use one of " ++ Tag.alphabet)
  | notALetter _ _ => some ("use one of " ++ Tag.alphabet)
  | axisOutOfRange _ _ _ rank => some s!"axis must be in [0, {rank})"
  | nonIntegerBound _ _ _ _ => some "slice bounds must satisfy 0 <= begin <= end <= rank"
  | invalidSlice _ _ _ => some "slice bounds must satisfy 0 <= begin <= end <= rank"
  | _ => none

/-- The note that names the operation. -/
def related : Cause → String
  | strayLetter _ _ => "layout decoding"
  | notALetter _ _ => "layout decoding"
  | axisOutOfRange query _ _ _ => query.name
  | nonIntegerBound _ _ _ _ => "slice"
  | invalidSlice _ _ _ => "slice"
  | noAxisAt which => which.name
  | notAMatrix query _ _ => query.name
  | _ => "shape construction"

/-- The data, entry by entry. -/
def data : Cause → List (String × Datum)
  | notDimensions typeName => [("type", .plain typeName)]
  | truthValueDimension axis => [("axis", .count axis)]
  | nonIntegerDimension axis typeName => [("axis", .count axis), ("type", .plain typeName)]
  | dimensionTooSmall axis dimension => [("axis", .count axis), ("value", .int dimension)]
  | untaggedEntry typeName => [("type", .plain typeName)]
  | unequalLengths rank tags => [("rank", .count rank), ("layout_length", .count tags)]
  | malformedPair axis _ => [("axis", .count axis)]
  | strayLetter layout stray =>
    [("layout", .text layout), ("char", .plain stray.char.toString),
      ("position", .count stray.position)]
  | notALetter offered _ => [("char", .text offered)]
  | axisOutOfRange _ _ form rank => [("axis", .plain form), ("rank", .count rank)]
  | nonIntegerBound bound _ form rank => [(bound.name, .plain form), ("rank", .count rank)]
  | invalidSlice first past rank =>
    [("begin", .int first), ("end", .int past), ("rank", .count rank)]
  | noAxisAt _ => [("rank", .count 0)]
  | notAMatrix _ rank display => [("rank", .count rank), ("shape", .plain display)]

/-- The diagnostic of a cause. -/
def diagnostic (cause : Cause) : Diagnostic where
  kind := .ofCode cause.code
  text := .plain cause.message
  code := cause.code
  help := cause.help.map Text.plain
  related := [.plain cause.related]
  data := cause.data.map fun entry => (.plain entry.1, entry.2)

end Cause
end TensorShape

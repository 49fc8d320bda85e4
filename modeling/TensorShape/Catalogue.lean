import TensorShape.Code
import TensorShape.Shape
import TensorShape.Tag

/-! # The catalogue

What a caller finds here before asking anything: the tags and the codes with their
spellings, the integer that stands for an unknown extent, and the names under
which the parts of the library are offered. -/
namespace TensorShape.Catalogue

/-- The tags by name, each with its letter. -/
def tags : List (String × Char) := Tag.all.map fun t => (t.name, t.char)

/-- The codes by name, each with its value. -/
def codes : List (String × String) := Code.all.map fun c => (c.name, c.value)

/-- The integer that stands for an unknown extent. -/
def unknownDimension : Int := Extent.unknownMark

/-- The names on offer, in alphabetical order. -/
def names : List String :=
  ["AxisPair", "AxisPairs", "ErrorCode", "IndexOutOfRangeError", "InvalidLayoutError",
    "InvalidShapeError", "LayoutType", "NotAMatrixError", "Shape", "ShapeError", "ShapedLike",
    "UNKNOWN_DIM", "from_value", "to_value"]

end TensorShape.Catalogue

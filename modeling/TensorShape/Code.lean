/-! # Diagnostic codes

A code sorts a diagnostic by what is wrong with the input.  It has a name, and a
value by which other programs know it. -/
namespace TensorShape

/-- What a diagnostic finds wrong. -/
inductive Code where
  | invalidShape
  | invalidLayout
  | indexOutOfRange
  | notAMatrix
  deriving DecidableEq, Repr, Inhabited

namespace Code

/-- All codes, in the order in which they are listed to the outside. -/
def all : List Code := [invalidShape, invalidLayout, indexOutOfRange, notAMatrix]

/-- The name. -/
def name : Code → String
  | invalidShape => "INVALID_SHAPE"
  | invalidLayout => "INVALID_LAYOUT"
  | indexOutOfRange => "INDEX_OUT_OF_RANGE"
  | notAMatrix => "NOT_A_MATRIX"

/-- The value by which other programs know the code. -/
def value : Code → String
  | invalidShape => "invalid_shape"
  | invalidLayout => "invalid_layout"
  | indexOutOfRange => "index_out_of_range"
  | notAMatrix => "not_a_matrix"

end Code
end TensorShape

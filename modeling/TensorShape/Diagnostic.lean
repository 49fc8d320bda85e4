import TensorShape.Text

/-! # Diagnostics

A diagnostic tells a caller what is wrong with an input: in words, by a code, with
an optional hint, notes that name the operation, and data that a program can
read.  Its kind is the family that a caller handles together; all families but
the general one fix a code.  All diagnostics are errors: there is no other
severity, so none is recorded. -/
namespace TensorShape

/-- A family of diagnostics. -/
inductive Kind where
  | general
  | invalidShape
  | invalidLayout
  | indexOutOfRange
  | notAMatrix
  deriving DecidableEq, Repr, Inhabited

namespace Kind

/-- All families, the general one first. -/
def all : List Kind := [general, invalidShape, invalidLayout, indexOutOfRange, notAMatrix]

/-- The name of a family. -/
def name : Kind → String
  | general => "ShapeError"
  | invalidShape => "InvalidShapeError"
  | invalidLayout => "InvalidLayoutError"
  | indexOutOfRange => "IndexOutOfRangeError"
  | notAMatrix => "NotAMatrixError"

/-- The code of a diagnostic for which no other is given. -/
def code? : Kind → Option Code
  | general => none
  | invalidShape => some .invalidShape
  | invalidLayout => some .invalidLayout
  | indexOutOfRange => some .indexOutOfRange
  | notAMatrix => some .notAMatrix

/-- The family that fixes a code. -/
def ofCode : Code → Kind
  | .invalidShape => invalidShape
  | .invalidLayout => invalidLayout
  | .indexOutOfRange => indexOutOfRange
  | .notAMatrix => notAMatrix

@[simp] theorem code?_ofCode (c : Code) : (ofCode c).code? = some c := by
  cases c <;> rfl

/-- Whether the family is also handled together with indices out of range elsewhere. -/
def isIndexFailure : Kind → Bool
  | indexOutOfRange => true
  | _ => false

end Kind

/-- One piece of the data of a diagnostic. -/
inductive Datum where
  | text (t : Text)
  | int (n : Int)
  | bool (b : Bool)
  deriving DecidableEq, Repr

namespace Datum

/-- A piece of plain text. -/
def plain (s : String) : Datum := text (.plain s)

/-- A count. -/
def count (n : Nat) : Datum := int n

end Datum

/-- What is wrong with an input. -/
structure Diagnostic where
  kind : Kind
  text : Text
  code : Code
  help : Option Text
  related : List Text
  data : List (Text × Datum)
  deriving DecidableEq, Repr

namespace Diagnostic

/-- The wording, as it appears in the report of a failure. -/
def message (d : Diagnostic) : String := d.text.displayed

end Diagnostic
end TensorShape

import TensorShape.Text.Decimal

/-! # Faults

A fault is what stops work on a value because of the kind of thing the value is:
it has no items, no length or no such feature, it does not compare with integers,
it pairs two sequences of unequal length, or it holds an integer of too many
digits to be put into print.  Unlike a diagnostic it says nothing about shapes. -/
namespace TensorShape

/-- A value that does not offer what was asked of it. -/
inductive Fault where
  | notIterable (typeName : String)
  | noLength (typeName : String)
  | noFeature (typeName feature : String)
  | notComparable (typeName : String)
  | secondShorter
  | secondLonger
  | tooManyDigits
  deriving DecidableEq, Repr

namespace Fault

/-- The parts of the wording of a fault. -/
def wording : Fault → List String
  | notIterable typeName => ["'", typeName, "' object is not iterable"]
  | noLength typeName => ["object of type '", typeName, "' has no len()"]
  | noFeature typeName feature => ["'", typeName, "' object has no attribute '", feature, "'"]
  | notComparable typeName =>
    ["'<=' not supported between instances of 'int' and '", typeName, "'"]
  | secondShorter => ["zip() argument 2 is shorter than argument 1"]
  | secondLonger => ["zip() argument 2 is longer than argument 1"]
  | tooManyDigits =>
    ["Exceeds the limit (", toString Decimal.limit, " digits) for integer string conversion; ",
      "use sys.set_int_max_str_digits() to increase the limit"]

/-- The wording of a fault. -/
def message (fault : Fault) : String := String.join fault.wording

/-- Whether a fault lies in what a value holds, and not in what kind of thing it is. -/
def isOfContent : Fault → Bool
  | secondShorter => true
  | secondLonger => true
  | tooManyDigits => true
  | _ => false

/-- Something that shows some integers in digits, unless one of them has too many. -/
def showing (integers : List Int) (a : α) : Except Fault α :=
  if Decimal.Fit integers then .ok a else .error tooManyDigits

variable {integers : List Int} {a : α}

theorem showing_of_fit (h : Decimal.Fit integers) : showing integers a = .ok a := if_pos h

theorem showing_of_not_fit (h : ¬ Decimal.Fit integers) :
    showing integers a = .error tooManyDigits := if_neg h

@[simp] theorem showing_eq_ok_iff {b : α} :
    showing integers a = .ok b ↔ Decimal.Fit integers ∧ a = b := by
  by_cases h : Decimal.Fit integers
  · simp [showing_of_fit h, h]
  · simp [showing_of_not_fit h, h]

end Fault
end TensorShape

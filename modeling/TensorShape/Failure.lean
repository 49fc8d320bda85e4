import TensorShape.Cause
import TensorShape.Fault

/-! # Failures

An operation fails in one of six ways.  It rejects its input with a cause, it
meets a fault of a value, it is misused, it is asked to change a shape, it is
given parts that make no diagnostic, or a callback of the caller fails.  Only
rejections have a diagnostic. -/
namespace TensorShape

/-- An argument that is not the kind of thing that the operation works on. -/
inductive Misuse where
  | notAShape
  | notATensor
  | notLayoutText
  | notATag
  deriving DecidableEq, Repr

/-- The wording of a misuse. -/
def Misuse.message : Misuse → String
  | notAShape => "can only concatenate Shape with Shape"
  | notATensor => "Shape.of expects an object with a .shape attribute"
  | notLayoutText => "layout string must be a str"
  | notATag => "layout entries must be LayoutType members"

/-- The two ways of changing a field. -/
inductive Change where
  | assign
  | delete
  deriving DecidableEq, Repr

/-- The verb of a change. -/
def Change.verb : Change → String
  | assign => "assign to"
  | delete => "delete"

/-- A part that no diagnostic can have. -/
inductive Unfit where
  | code (kind : Kind)
  | message
  | blankMessage
  | help
  | note
  | blankNote
  | dataKey
  | dataValue
  deriving DecidableEq, Repr

/-- The wording for an unfit part. -/
def Unfit.wording : Unfit → String
  | code kind => kind.name ++ " requires an ErrorCode"
  | message => "diagnostic message must be a string"
  | blankMessage => "diagnostic message cannot be empty"
  | help => "diagnostic help must be a string or None"
  | note => "related notes must be strings"
  | blankNote => "related notes cannot be blank"
  | dataKey => "diagnostic data keys must be strings"
  | dataValue => "diagnostic data values must be str, int, or bool"

/-- Why an operation has no result. -/
inductive Failure where
  | rejected (cause : Cause)
  | fault (fault : Fault)
  | misuse (misuse : Misuse)
  | frozen (change : Change) (field : String)
  | unfit (part : Unfit)
  | callback (message : String)
  deriving DecidableEq, Repr

namespace Failure

/-- The rejection by a cause that shows some integers in digits, unless one of them has too many. -/
def showing (integers : List Int) (cause : Cause) : Failure :=
  if Decimal.Fit integers then rejected cause else fault .tooManyDigits

variable {integers : List Int} {cause : Cause}

theorem showing_of_fit (h : Decimal.Fit integers) : showing integers cause = rejected cause :=
  if_pos h

theorem showing_of_not_fit (h : ¬ Decimal.Fit integers) :
    showing integers cause = fault .tooManyDigits := if_neg h

theorem showing_ne_unfit (part : Unfit) : showing integers cause ≠ unfit part := by
  unfold showing
  split <;> nofun

/-- The wording of a failure. -/
def message : Failure → String
  | rejected cause => cause.message
  | fault f => f.message
  | misuse m => m.message
  | frozen change field => s!"cannot {change.verb} field '{field}'"
  | unfit part => part.wording
  | callback text => text

end Failure
end TensorShape

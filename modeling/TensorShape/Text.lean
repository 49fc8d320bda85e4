import TensorShape.Code
import TensorShape.Tag
import TensorShape.Text.Quoted

/-! # Text

Three things count as text: a plain string, a tag, and a code.  The content of a
tag is its letter and that of a code its value, and wherever text is read only
the content matters.  In print the three differ: `written` is the unambiguous
form, `displayed` the form for a reader. -/
namespace TensorShape

/-- Anything that counts as text. -/
inductive Text where
  | plain (content : String)
  | tag (tag : Tag)
  | code (code : Code)
  deriving DecidableEq, Repr, Inhabited

namespace Text

/-- The characters that a reader of the text sees. -/
def content : Text → String
  | plain s => s
  | tag t => t.char.toString
  | code c => c.value

/-- The name of the kind of text. -/
def typeName : Text → String
  | plain _ => "str"
  | tag _ => "LayoutType"
  | code _ => "ErrorCode"

/-- The name of the member, which plain text lacks. -/
def memberName? : Text → Option String
  | plain _ => none
  | tag t => some t.name
  | code c => some c.name

/-- The form for a reader: the content of plain text, the full name of a tag or code. -/
def displayed (t : Text) : String :=
  match t.memberName? with
  | none => t.content
  | some name => t.typeName ++ "." ++ name

/-- The unambiguous form: plain text in quotes, the full name and the content of a tag or code. -/
def written (t : Text) : String :=
  match t.memberName? with
  | none => Quoted.quote t.content
  | some name => "<" ++ t.typeName ++ "." ++ name ++ ": " ++ Quoted.quote t.content ++ ">"

end Text
end TensorShape

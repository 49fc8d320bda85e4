import TensorShape.Eval
import TensorShape.Layout

/-! # Layouts spelled by values

The spelling of a layout arrives as a value, and so do the tags to be spelled.  A
letter that spells no tag is logged before it is refused. -/
namespace TensorShape.Layout

/-- Logs something that was offered as a letter and spells no tag. -/
def reportLetter (form : Draw String) : Eval Unit :=
  .report .layout do return "rejected layout character " ++ (← form)

/-- The layout that a text spells. -/
def ofText (spelling : Text) : Eval Layout :=
  match decode spelling.content.toList with
  | .ok layout => pure layout
  | .error stray => do
    reportLetter (pure (Quoted.quote stray.char.toString))
    .reject (.strayLetter spelling stray)

/-- The layout that a value spells. -/
def ofSpelling : Value → Eval Layout
  | .text spelling => ofText spelling
  | _ => throw (.misuse .notLayoutText)

/-- The tag that a text of one letter spells. -/
def tagOfText? (t : Text) : Option Tag :=
  match t.content.toList with
  | [c] => Tag.ofChar? c
  | _ => none

/-- Looks among the tags for something that is no text.  The search writes it, and a fault of its
content that turns up on the way is taken for a failed search. -/
def searchFor (v : Value) : Eval Unit :=
  .ofDraw <| tryCatch (do let _ ← v.write) fun fault =>
    if fault.isOfContent then return else throw fault

/-- The tag that a value spells.  What is no text is written until it is refused: for the search,
for the log if there is one, for the wording and for the data. -/
def tagOf : Value → Eval Tag
  | .text t =>
    match tagOfText? t with
    | some tag => pure tag
    | none => do
      reportLetter (pure t.written)
      .reject (.notALetter t t.written)
  | v => do
    searchFor v
    reportLetter v.write
    let form ← .ofDraw v.write
    .reject (.notALetter (.plain (← .ofDraw v.write)) form)

/-- The spelling of the tags that a value holds. -/
def spell (tags : Value) : Eval String := do
  return encode (← Eval.eachItem tagOnly tags)
where
  /-- An item that is a tag. -/
  tagOnly (_ : Nat) : Value → Eval Tag
    | .text (.tag tag) => pure tag
    | _ => throw (.misuse .notATag)

end TensorShape.Layout

import TensorShape.Eval
import TensorShape.Text.Blank

/-! # Diagnostics from parts

Callers may put a diagnostic together themselves.  The parts arrive as values and
are looked at one by one, and the first that does not fit is refused.  The
wording and every note must leave a mark, and the data must hold text, integers or
truth values by keys that are text. -/
namespace TensorShape.Diagnostic

/-- The values offered as parts of a diagnostic. -/
structure Parts where
  message : Value
  code : Value
  help : Value
  related : Value
  data : Value
  deriving Inhabited

/-- The code that a value gives, or else the one that the family fixes. -/
def codeFrom (kind : Kind) : Value → Except Unfit Code
  | .absent =>
    match kind.code? with
    | some code => .ok code
    | none => .error (.code kind)
  | .text (.code code) => .ok code
  | _ => .error (.code kind)

/-- The wording that a value gives. -/
def messageFrom : Value → Except Unfit Text
  | .text t => if Blank.isBlankText t.content then .error .blankMessage else .ok t
  | _ => .error .message

/-- The hint that a value gives. -/
def helpFrom : Value → Except Unfit (Option Text)
  | .absent => .ok none
  | .text t => .ok (some t)
  | _ => .error .help

/-- A note among the items of a value. -/
def noteFrom : Value → Except Unfit Text
  | .text t => .ok t
  | _ => .error .note

/-- The notes that the items of a value give. -/
def notesFrom (items : List Value) : Except Unfit (List Text) := do
  let notes ← items.mapM noteFrom
  if notes.any fun note => Blank.isBlankText note.content then .error .blankNote
  else return notes

/-- A key of the data. -/
def keyFrom : Value → Except Unfit Text
  | .text t => .ok t
  | _ => .error .dataKey

/-- A piece of the data. -/
def datumFrom : Value → Except Unfit Datum
  | .text t => .ok (.text t)
  | .int n => .ok (.int n)
  | .bool b => .ok (.bool b)
  | _ => .error .dataValue

/-- Refuses an unfit part. -/
def ofUnfit (part : Except Unfit α) : Eval α := .ofExcept (part.mapError .unfit)

/-- The data that a value gives. -/
def dataFrom : Value → Eval (List (Text × Datum))
  | .absent => return []
  | v => do
    let keys ← Eval.eachItem (fun _ key => ofUnfit (keyFrom key)) v
    match v.entries? with
    | some entries => return keys.zip (← ofUnfit (entries.mapM fun entry => datumFrom entry.2))
    | none => throw (.fault (.noFeature v.typeName "values"))

/-- The diagnostic that the parts make up. -/
def ofParts (kind : Kind) (parts : Parts) : Eval Diagnostic := do
  let code ← ofUnfit (codeFrom kind parts.code)
  let text ← ofUnfit (messageFrom parts.message)
  let help ← ofUnfit (helpFrom parts.help)
  let related ← ofUnfit (notesFrom (← Eval.items parts.related))
  let data ← dataFrom parts.data
  return { kind, text, code, help, related, data }

/-- The value of a piece of data. -/
def valueOfDatum : Datum → Value
  | .text t => .text t
  | .int n => .int n
  | .bool b => .bool b

/-- The parts of a diagnostic. -/
def parts (d : Diagnostic) : Parts where
  message := .text d.text
  code := .text (.code d.code)
  help := d.help.elim .absent .text
  related := .tuple (d.related.map .text)
  data := .dict (d.data.map fun entry => (.text entry.1, valueOfDatum entry.2))

end TensorShape.Diagnostic

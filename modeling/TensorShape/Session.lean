import TensorShape.Construction
import TensorShape.Diagnostic.Assembly
import TensorShape.Shape.Access
import TensorShape.Shape.Query
import TensorShape.Value.Equality

/-! # Sessions

An operation is one thing that a caller may ask of the library, with the values
that it is asked about.  `Operation.run` carries it out.  A session carries out
operations one after the other: results can be kept under a name for later use,
and cursors go on from where they were left, while log records and callback calls
belong to the operation that made them. -/
namespace TensorShape

/-- One thing that a caller may ask. -/
inductive Operation where
  | catalogue
  /-- A shape from arguments and a layout. -/
  | construct (arguments : List Value) (layout : Value)
  | fromPairs (pairs : Value)
  | ofTensor (tensor layout : Value)
  | isShaped (v : Value)
  | get (s : Shape) (axis : Value)
  | size (s : Shape) (axes : List Value)
  | slice (s : Shape) (first past : Value)
  | concatenate (s : Shape) (other : Value)
  | query (s : Shape) (query : Query)
  | describe (s : Shape)
  | filter (s : Shape) (wanted : Shape.Predicate)
  | map (s : Shape) (transform : Shape.Transform)
  | pairs (s : Shape)
  /-- A view that pairs the items of two values. -/
  | view (first second : Value)
  | cursor (v : Value)
  | next (v : Value)
  | items (v : Value)
  | length (v : Value)
  | written (v : Value)
  | displayed (v : Value)
  | truth (v : Value)
  | compare (v w : Value)
  | distinct (values : List Value)
  /-- An attempt to change a field of a shape. -/
  | change (change : Change) (field : String)
  | tagOfLetter (v : Value)
  | layoutOfSpelling (v : Value)
  | spellLayout (v : Value)
  | letterOfTag (t : Tag)
  | diagnostic (kind : Kind) (parts : Diagnostic.Parts)

/-- What an operation that succeeds gives. -/
inductive Result where
  | value (v : Value)
  /-- A cursor has no further item. -/
  | exhausted
  | comparison (equal bothShapes : Bool)
  | description (d : Description)
  | diagnostic (d : Diagnostic)
  | catalogue

namespace Value

/-- Whether a value is a shape. -/
def isShape : Value → Bool
  | shape _ => true
  | _ => false

/-- What a cursor over a value walks along. -/
def cursorKind : Value → CursorKind
  | text t =>
    .others (if t.content.toList.all (·.val < 0x80) then "str_ascii_iterator" else "str_iterator")
  | list _ => .others "list_iterator"
  | dict _ => .others "dict_keyiterator"
  | bytes _ => .others "bytes_iterator"
  | iterable _ (.cursors typeName) _ => .others typeName
  | iterable _ .positions _ => .others "iterator"
  | mapping _ cursors _ => .others cursors
  | view _ _ _ _ => .pairs
  | liveView _ _ _ => .pairs
  | _ => .extents

/-- A value with a label, if it is a view that has none. -/
def labelled (label : Nat) : Value → Value
  | view none pairs fault length => view (some label) pairs fault length
  | liveView none first second => liveView (some label) first second
  | v => v

end Value

namespace Eval

/-- A cursor over a value; a cursor is its own. -/
def cursorOver : Value → Eval Value
  | v@(.cursor _ _) => return v
  | v => do newCursor v.cursorKind (← ofFault v.source)

/-- The next item of a cursor. -/
def nextItem : Value → Eval (Option Value)
  | .cursor _ place => ofDraw (.advance place)
  | v => throw (.fault (.notIterable v.typeName))

end Eval

namespace Operation

/-- Carries out an operation. -/
def run : Operation → Eval Result
  | catalogue => return .catalogue
  | construct arguments layout => do return .value (.shape (← Shape.ofArguments arguments layout))
  | fromPairs v => do return .value (.shape (← Shape.ofPairs v))
  | ofTensor tensor layout => do return .value (.shape (← Shape.ofTensor tensor layout))
  | isShaped v => return .value (.bool v.isShaped)
  | get s axis => do return .value (.int (← s.get axis))
  | size s axes => do return .value (.int (← s.sizeOver axes))
  | slice s first past => do return .value (.shape (← s.slice first past))
  | concatenate s other => do return .value (.shape (← s.concatenate other))
  | query s q => do return .value (← .ofExcept (s.answer q))
  | describe s => do return .description (← .ofDraw s.description)
  | filter s wanted => do return .value (.shape (← s.filterAxes wanted))
  | map s transform => do return .value (.shape (← s.mapAxes transform))
  | pairs s => return .value (.pairsOf s)
  | view first second => return .value (.viewOver first second)
  | cursor v => do return .value (← Eval.cursorOver v)
  | next v => do
    match ← Eval.nextItem v with
    | some item => return .value item
    | none => return .exhausted
  | items v => do return .value (.list (← Eval.items v))
  | length v => do return .value (.int (← Eval.ofFault v.length))
  | written v => do return .value (.plain (← Eval.ofDraw v.write))
  | displayed v => do return .value (.plain (← Eval.ofDraw v.display))
  | truth v => do return .value (.bool (← Eval.ofFault v.truthy))
  | compare v w => return .comparison (v.same w) (v.isShape && w.isShape)
  | distinct values => return .value (.int (Value.distinctCount values))
  | change attempt field => throw (.frozen attempt field)
  | tagOfLetter v => do return .value (.tag (← Layout.tagOf v))
  | layoutOfSpelling v => do return .value (.tuple ((← Layout.ofSpelling v).map .tag))
  | spellLayout v => do return .value (.plain (← Layout.spell v))
  | letterOfTag t => return .value (.plain t.char.toString)
  | diagnostic kind parts => do return .diagnostic (← Diagnostic.ofParts kind parts)

end Operation

/-- What came of an operation. -/
structure Outcome where
  result : Except Failure Result
  log : List LogRecord
  calls : List Axis

/-- What is left of earlier operations: the state of all cursors, and the results kept by name.  The
caller has set up the logging before. -/
structure Session where
  logging : Logging
  cursors : List Source
  kept : List (String × Value)

namespace Session

/-- The session before its first operation. -/
def fresh (logging : Logging) : Session := ⟨logging, [], []⟩

/-- The result kept under a name. -/
def named? (session : Session) (name : String) : Option Value := session.kept.lookup name

/-- Keeps a result under a name, in place of an earlier one.  No view kept before has the label that
a view gets here. -/
def keep (session : Session) (name : String) (v : Value) : Session :=
  { session with kept := (name, v.labelled session.kept.length) :: session.kept }

/-- The traces with which the next operation of a session begins. -/
def start (session : Session) : Run := ⟨session.logging, session.cursors, [], []⟩

/-- Carries out an operation, and keeps its result if a name is given. -/
def perform (session : Session) (operation : Operation) (keepAs : Option String) :
    Outcome × Session :=
  let (result, run) := operation.run.run session.start
  let after : Session := { session with cursors := run.cursors }
  let after := match result, keepAs with
    | .ok (.value v), some name => after.keep name v
    | _, _ => after
  (⟨result, run.log, run.calls⟩, after)

end Session
end TensorShape

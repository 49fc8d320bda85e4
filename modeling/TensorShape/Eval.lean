import TensorShape.Failure
import TensorShape.Value.Print

/-! # Evaluation

Most operations are functions of their arguments alone.  Those that go through a
value, write it, call back into the caller or report a rejection leave traces,
kept in a `Run`: how far each cursor has come, the records logged and the axes
handed to a callback.  A failure keeps the traces left up to it.

A record names values of the caller, and they are written only when the record is.
What `report` does therefore hangs on the `Logging` that the caller has set up:
while it is off no value is written, and a value that cannot be written costs the
record or, if the caller wants to hear of that, the operation.

`eachItem` goes through the items of a value.  An item of a cursor is used up
before it is looked at, so an operation that stops early leaves the items after
the one that it stopped at. -/
namespace TensorShape

/-- The part of the library that a log record comes from. -/
inductive Channel where
  | layout
  | shape
  deriving DecidableEq, Repr

/-- One record of rejected input. -/
structure LogRecord where
  channel : Channel
  message : String
  deriving DecidableEq, Repr

/-- What becomes of records of rejected input. -/
inductive Logging where
  /-- There are none. -/
  | off
  /-- They are kept, and one that cannot be written is dropped. -/
  | lenient
  /-- They are kept, and one that cannot be written is a fault of the operation. -/
  | strict
  deriving DecidableEq, Repr, Inhabited

/-- The traces that operations leave. -/
structure Run where
  /-- What becomes of records.  No operation changes it. -/
  logging : Logging
  /-- What each cursor draws from. -/
  cursors : List Source
  /-- The records logged, oldest first. -/
  log : List LogRecord
  /-- The axes handed to a callback, first call first. -/
  calls : List Axis
  deriving Inhabited

/-- Computations that leave traces and may fail. -/
abbrev Eval := ExceptT Failure (StateM Run)

namespace Eval

/-- Fails with a cause. -/
def reject (cause : Cause) : Eval α := throw (.rejected cause)

/-- Takes over the result of something that may meet a fault. -/
def ofFault : Except Fault α → Eval α
  | .ok a => pure a
  | .error fault => throw (.fault fault)

/-- Takes over the result of something that may fail but leaves no traces. -/
def ofExcept : Except Failure α → Eval α
  | .ok a => pure a
  | .error failure => throw failure

/-- Takes over what a callback answers. -/
def ofCallback : Except String α → Eval α
  | .ok a => pure a
  | .error text => throw (.callback text)

/-- Notes that an axis is handed to a callback. -/
def noteCall (axis : Axis) : Eval Unit :=
  modify fun run => { run with calls := run.calls ++ [axis] }

/-! ## Cursors -/

/-- Takes over a computation that draws items. -/
def ofDraw (work : Draw α) : Eval α := do
  let run ← get
  let (result, cursors) := work.run.run run.cursors
  set { run with cursors }
  ofFault result

/-- A new cursor over a source. -/
def newCursor (kind : CursorKind) (source : Source) : Eval Value := do
  let place := (← get).cursors.length
  modify fun run => { run with cursors := run.cursors ++ [source] }
  return .cursor kind place

/-! ## Records -/

/-- Adds a record to the log. -/
def record (channel : Channel) (message : String) : Eval Unit :=
  modify fun run => { run with log := run.log ++ [⟨channel, message⟩] }

/-- Reports a rejection by a record, which is composed only if records are kept. -/
def report (channel : Channel) (compose : Draw String) : Eval Unit := do
  match (← get).logging with
  | .off => return
  | .lenient => tryCatch (do record channel (← ofDraw compose)) fun _ => return
  | .strict => record channel (← ofDraw compose)

/-! ## Going through items -/

/-- Applies `f` to each element of a list in order, with its position. -/
def traverse (f : Nat → α → Eval β) : Nat → List α → Eval (List β)
  | _, [] => pure []
  | position, a :: rest => do
    let b ← f position a
    return b :: (← traverse f (position + 1) rest)

/-- Applies `f` to each item that a source gives, in order, with its position, and stops after
`bound` items.  An item is drawn when `f` is done with the one before. -/
def drain (f : Nat → Value → Eval β) : Nat → Nat → Source → Eval (List β)
  | 0, _, _ => pure []
  | bound + 1, position, source => do
    match ← ofDraw (.next source) with
    | none => return []
    | some (item, rest) =>
      let b ← f position item
      return b :: (← drain f bound (position + 1) rest)

/-- Meets the fault that ends a pass, if one does. -/
def finish : Option Fault → Eval Unit
  | none => pure ()
  | some fault => throw (.fault fault)

/-- Applies `f` to each item of a value in order, with its position.  A source gives no more items
than it and the cursors hold. -/
def eachItem (f : Nat → Value → Eval β) (v : Value) : Eval (List β) :=
  match v.pass? with
  | some pass => do
    let results ← traverse f 0 pass.items
    finish pass.fault
    return results
  | none => do
    let source ← ofFault v.source
    drain f (source.held + (← ofDraw .supply) + 1) 0 source

/-- The items of a value. -/
def items (v : Value) : Eval (List Value) := eachItem (fun _ item => pure item) v

end Eval
end TensorShape

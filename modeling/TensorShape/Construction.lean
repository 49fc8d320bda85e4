import TensorShape.Eval
import TensorShape.Shape.Derivation
import TensorShape.Spelling

/-! # Construction of shapes

Every construction ends in `construct`, which reads the dimensions, then the
layout, then compares their lengths, and refuses the first thing that is wrong in
that order.  What it refuses it logs together with all it was given.  The ways to
get there differ in where dimensions and layout come from: arguments, pairs, the
shape of a tensor, another shape, or callbacks that are handed the axes of one. -/
namespace TensorShape.Shape

/-! ## From dimensions and a layout -/

/-- The dimension that a value gives for an axis.  The refusal of one that is too small shows it. -/
def dimensionFrom (axis : Nat) : Value → Except Failure Int
  | .bool _ => .error (.rejected (.truthValueDimension axis))
  | v =>
    match v.integer? with
    | none => .error (.rejected (.nonIntegerDimension axis v.typeName))
    | some d =>
      if d < Extent.unknownMark then .error (.showing [d] (.dimensionTooSmall axis d)) else .ok d

/-- The dimensions that some values give for the axes from `axis` on. -/
def dimensionsFrom (axis : Nat) : List Value → Except Failure (List Int)
  | [] => .ok []
  | v :: rest => do
    let d ← dimensionFrom axis v
    return d :: (← dimensionsFrom (axis + 1) rest)

/-- A tag among the entries of a layout. -/
def tagEntry (_ : Nat) : Value → Eval Tag
  | .text (.tag tag) => pure tag
  | v => .reject (.untaggedEntry v.typeName)

/-- The layout that a value gives for so many axes.  Text spells a layout, other values hold its
tags, and where no layout is given all tags are unknown. -/
def layoutFrom (rank : Nat) : Value → Eval Layout
  | .absent => pure (Layout.silent rank)
  | .text spelling => Layout.ofText spelling
  | v => Eval.eachItem tagEntry v

/-- The shape with the dimensions and the layout that the values give. -/
def assemble (dimensions : List Value) (layout : Value) : Eval Shape := do
  let dimensions ← .ofExcept (dimensionsFrom 0 dimensions)
  let tags ← layoutFrom dimensions.length layout
  if tags.length = dimensions.length then return ⟨dimensions, tags⟩
  else .reject (.unequalLengths dimensions.length tags.length)

/-- What the log is told of a refusal: the values that were refused, and the wording. -/
def refusalText (dimensions : List Value) (layout : Value) (cause : Cause) : Draw String := do
  let dimensions ← (Value.tuple dimensions).write
  let layout ← layout.write
  return s!"rejected shape {dimensions} with layout {layout}: {cause.message}"

/-- The shape with the dimensions and the layout that the values give; a refusal is logged. -/
def construct (dimensions : List Value) (layout : Value) : Eval Shape :=
  tryCatch (assemble dimensions layout) fun
    | .rejected cause => do
      .report .shape (refusalText dimensions layout cause)
      .reject cause
    | failure => throw failure

/-! ## From arguments -/

/-- The layout that goes with the dimensions of a shape when it is copied: the one that is given, or
else the shape's own. -/
def layoutForCopy (s : Shape) : Value → Value
  | .absent => .tuple (Value.layout s)
  | layout => layout

/-- The shape that some arguments describe.  A lone argument that is no integer holds the
dimensions; otherwise the arguments are the dimensions. -/
def ofArguments : List Value → Value → Eval Shape
  | [v], layout =>
    if v.integer?.isSome then construct [v] layout
    else
      match v with
      | .text t => .reject (.notDimensions t.typeName)
      | .shape s => construct (Value.dimensions s) (layoutForCopy s layout)
      | v =>
        if v.isDeclaredIterable then do construct (← Eval.items v) layout
        else .reject (.notDimensions v.typeName)
  | arguments, layout => construct arguments layout

/-! ## From pairs -/

/-- What the log is told of a value that is no pair. -/
def pairText (axis : Nat) (pair : Value) : Draw String := do
  return s!"rejected axis pair {← pair.write} at axis {axis}"

/-- The two items of a value that is to describe an axis; what is no pair is logged and refused. -/
def splitPair (axis : Nat) (pair : Value) : Eval (Value × Value) := do
  match ← .ofDraw pair.pair? with
  | some parts => return parts
  | none =>
    .report .shape (pairText axis pair)
    .reject (.malformedPair axis (← .ofDraw pair.write))

/-- The shape that pairs of dimensions and tags describe. -/
def ofParts (parts : List (Value × Value)) : Eval Shape :=
  ofArguments [.tuple (parts.map Prod.fst)] (.tuple (parts.map Prod.snd))

/-- The shape whose axes are described by the items of a value. -/
def ofPairs (pairs : Value) : Eval Shape := do
  ofParts (← Eval.eachItem splitPair pairs)

/-! ## From a tensor -/

/-- The shape of a tensor. -/
def ofTensor : Value → Value → Eval Shape
  | .tensor _ shape, layout => do construct (← Eval.items shape) layout
  | _, _ => throw (.misuse .notATensor)

/-! ## From other shapes -/

/-- A shape with the given dimensions and tags, constructed anew. -/
def checked (s : Shape) : Eval Shape :=
  ofArguments [.tuple (Value.dimensions s)] (.tuple (Value.layout s))

/-- The axes of a shape followed by those of the shape that a value is. -/
def concatenate (s : Shape) : Value → Eval Shape
  | .shape t => (s ++ t).checked
  | _ => throw (.misuse .notAShape)

/-! ## Through callbacks -/

/-- What a caller answers when handed the tag of an axis.  The first argument counts the calls, so
that answers may change from call to call. -/
abbrev Predicate := Nat → Tag → Except String Value

/-- What a caller answers when handed an axis. -/
abbrev Transform := Nat → Axis → Except String Value

/-- Hands an axis to a callback. -/
def handOver (axis : Axis) (answer : Except String Value) : Eval Value := do
  .noteCall axis
  .ofCallback answer

/-- The fault that ends a pass over the axes: the dimensions and the tags are gone through side by
side, and one of them may run out before the other. -/
def unevenness (s : Shape) : Option Fault :=
  if s.layout.length < s.rank then some .secondShorter
  else if s.rank < s.layout.length then some .secondLonger
  else none

/-- Applies `f` to each axis in order, with its position. -/
def eachAxis (f : Nat → Axis → Eval β) (s : Shape) : Eval (List β) := do
  let results ← Eval.traverse f 0 s.axes
  Eval.finish s.unevenness
  return results

/-- The shape of the axes whose tags a predicate answers with a value that counts as true. -/
def filterAxes (wanted : Predicate) (s : Shape) : Eval Shape := do
  let kept ← s.eachAxis fun call axis => do
    let answer ← handOver axis (wanted call axis.tag)
    return if ← .ofFault answer.truthy then some (Value.ofAxis axis) else none
  ofPairs (.generated (kept.filterMap id))

/-- The shape whose axes are what a callback makes of the axes of another. -/
def mapAxes (transform : Transform) (s : Shape) : Eval Shape := do
  ofParts (← s.eachAxis fun call axis => do
    splitPair call (← handOver axis (transform call axis)))

end TensorShape.Shape

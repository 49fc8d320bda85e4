import TensorShape.Construction
import TensorShape.Shape.Measure

/-! # Axes chosen by values

Axes and bounds of slices arrive as values.  An axis must be an integer from zero
up to the rank, and the bounds of a slice must be integers in order between zero
and the rank; nothing counts from the back, and nothing is cut to fit.  A value
that is refused is reported in its written form.

An axis is compared with the rank as it is, and a bound only when it is an integer
proper.  Something that stands for an integer and does not compare with integers
can therefore be a bound, but no axis. -/
namespace TensorShape.Shape

/-- The forms in which a value is reported that is refused: one for the wording and one for the
data.  The value is written anew for each; only a live view can tell the difference. -/
def reportedForms (v : Value) : Eval (String × String) := do
  let shown ← .ofDraw v.write
  let form ← .ofDraw v.write
  return (shown, form)

/-- The dimension of an axis. -/
def dimensionAt (s : Shape) (i : Fin s.rank) : Int := s.dimensions.get i

/-- The axis at a position, if there is one. -/
def axisAt? (s : Shape) : Int → Option (Fin s.rank)
  | .ofNat i => if h : i < s.rank then some ⟨i, h⟩ else none
  | .negSucc _ => none

/-- The axis that a value chooses, if it chooses one. -/
def axis? (s : Shape) (v : Value) : Option (Fin s.rank) :=
  if v.isComparable then v.integer?.bind s.axisAt? else none

/-- Refuses a value that chooses no axis. -/
def refuseAxis (s : Shape) (query : AxisQuery) (v : Value) : Eval α := do
  let (shown, form) ← reportedForms v
  .reject (.axisOutOfRange query shown form s.rank)

/-- The axis that a value chooses; any other value is refused, unless comparing it is a fault. -/
def locate (s : Shape) (query : AxisQuery) (v : Value) : Eval (Fin s.rank) :=
  match s.axis? v with
  | some i => pure i
  | none =>
    if v.isComparable then s.refuseAxis query v
    else throw (.fault (.notComparable v.typeName))

/-- The dimension of the axis that a value chooses. -/
def get (s : Shape) (axis : Value) : Eval Int := do
  return s.dimensionAt (← s.locate .get axis)

/-- The number of positions of the grid spanned by the axes that some values choose; if there are
no values, by all axes. -/
def sizeOver (s : Shape) : List Value → Eval Int
  | [] => pure s.size
  | axes => do
    let chosen ← axes.mapM (s.locate .size)
    return gridSize (chosen.map s.dimensionAt)

/-- The integer that a value gives for a bound of a slice. -/
def boundOf (s : Shape) (bound : Bound) (v : Value) : Eval Int :=
  match v.integer? with
  | some n => pure n
  | none => do
    let (shown, form) ← reportedForms v
    .reject (.nonIntegerBound bound shown form s.rank)

/-- A bound that is a number of axes of a shape. -/
def Counts (s : Shape) (bound : Int) : Prop := 0 ≤ bound ∧ bound ≤ s.rank

instance (s : Shape) (bound : Int) : Decidable (s.Counts bound) :=
  inferInstanceAs (Decidable (0 ≤ bound ∧ bound ≤ s.rank))

/-- Those among two bounds whose digits could be too many to be shown.  A number of axes is the
length of a list, and no list is so long. -/
def longBounds (s : Shape) (first past : Int) : List Int :=
  [first, past].filter fun bound => ¬ s.Counts bound

/-- The axes between two bounds, which must lie between zero and the rank and be in order. -/
def between (s : Shape) (first past : Int) : Eval Shape :=
  if s.Counts first ∧ s.Counts past ∧ first ≤ past then
    (s.segment first.toNat past.toNat).checked
  else throw (.showing (s.longBounds first past) (.invalidSlice first past s.rank))

/-- The second bound of a slice: the one that is given, or else the rank. -/
def pastOr (s : Shape) : Value → Value
  | .absent => .int s.rank
  | past => past

/-- The axes between two bounds.  Without a second bound the slice runs to the last axis. -/
def slice (s : Shape) (first past : Value) : Eval Shape := do
  let first ← s.boundOf .first first
  let past ← s.boundOf .past (s.pastOr past)
  s.between first past

end TensorShape.Shape

import TensorShape.Layout
import TensorShape.Text.Decimal
import TensorShape.Text.Quoted
import TensorShape.Text.Sequence

/-! # Shapes

A shape keeps two lists side by side: the dimensions of its axes, and their tags.
A dimension is the extent of an axis, the number of positions along it, or `-1` where
that is not known.  Nothing in the record ties the two lists together, and nothing
keeps a dimension above `-1`: that a shape is `Valid` is what construction has to see
to and what every derivation has to keep.

A valid shape is the list of its axes and nothing else (`ofAxes_axes`).  Two shapes
agree when their dimensions do; tags describe a shape and take no part in the
comparison.

`display` shows the dimensions, `written` also the tags unless all of them are
unknown, and `writtenPairs` shows axis by axis.  These are the texts; none of them
comes out unless the shape is `Printable`. -/
namespace TensorShape

/-- The integer that stands for an extent that is not known. -/
def Extent.unknownMark : Int := -1

/-- One axis of a tensor. -/
structure Axis where
  dimension : Int
  tag : Tag
  deriving DecidableEq, Repr, Inhabited

/-- The dimensions and the tags of the axes of a tensor, first axis first. -/
structure Shape where
  dimensions : List Int
  layout : Layout
  deriving DecidableEq, Repr, Inhabited

namespace Shape

/-- How many axes there are. -/
def rank (s : Shape) : Nat := s.dimensions.length

/-- The axes, as far as there is both a dimension and a tag. -/
def axes (s : Shape) : List Axis := List.zipWith Axis.mk s.dimensions s.layout

/-- There are as many tags as dimensions, and every dimension stands for an extent. -/
structure Valid (s : Shape) : Prop where
  lengths : s.dimensions.length = s.layout.length
  bounded : ∀ d ∈ s.dimensions, Extent.unknownMark ≤ d

/-- The shape that has some axes. -/
def ofAxes (axes : List Axis) : Shape := ⟨axes.map Axis.dimension, axes.map Axis.tag⟩

/-- Same dimensions in the same order, whatever the tags. -/
def agrees (s t : Shape) : Bool := s.dimensions == t.dimensions

instance (s : Shape) : Decidable s.Valid :=
  decidable_of_iff (s.dimensions.length = s.layout.length ∧
    ∀ d ∈ s.dimensions, Extent.unknownMark ≤ d) ⟨fun h => ⟨h.1, h.2⟩, fun h => ⟨h.1, h.2⟩⟩

@[simp] theorem dimensions_length (s : Shape) : s.dimensions.length = s.rank := rfl

theorem Valid.layout_length {s : Shape} (h : s.Valid) : s.layout.length = s.rank := h.lengths.symm

@[simp] theorem Valid.axes_length {s : Shape} (h : s.Valid) : s.axes.length = s.rank := by
  simp [axes, h.layout_length]

@[simp] theorem axes_ofAxes (axes : List Axis) : (ofAxes axes).axes = axes := by
  induction axes with
  | nil => rfl
  | cons axis rest ih => exact congrArg (axis :: ·) ih

/-- The axes of a valid shape hold all of it. -/
theorem ofAxes_axes {s : Shape} (h : s.Valid) : ofAxes s.axes = s := by
  obtain ⟨ds, ts⟩ := s
  have lengths : ds.length = ts.length := h.lengths
  clear h
  simp only [ofAxes, axes, mk.injEq]
  induction ds generalizing ts with
  | nil => exact ⟨rfl, (List.length_eq_zero_iff.mp lengths.symm).symm⟩
  | cons d ds ih =>
    cases ts with
    | nil => cases lengths
    | cons t ts =>
      obtain ⟨dimensions, tags⟩ := ih ts (Nat.succ.inj lengths)
      exact ⟨congrArg (d :: ·) dimensions, congrArg (t :: ·) tags⟩

theorem valid_ofAxes_iff {axes : List Axis} :
    (ofAxes axes).Valid ↔ ∀ axis ∈ axes, Extent.unknownMark ≤ axis.dimension := by
  refine ⟨fun h axis found => h.bounded _ (List.mem_map_of_mem found), fun h => ⟨?_, ?_⟩⟩
  · simp [ofAxes]
  · intro d held
    obtain ⟨axis, found, rfl⟩ := List.mem_map.mp held
    exact h axis found

/-- Valid shapes with the same axes are the same. -/
theorem Valid.ext {s t : Shape} (hs : s.Valid) (ht : t.Valid) (h : s.axes = t.axes) : s = t := by
  rw [← ofAxes_axes hs, ← ofAxes_axes ht, h]

/-! ## In print -/

/-- The spelling of the layout. -/
def layoutSpelling (s : Shape) : String := Layout.encode s.layout

/-- No dimension has too many digits to be put into print. -/
def Printable (s : Shape) : Prop := Decimal.Fit s.dimensions

instance (s : Shape) : Decidable s.Printable :=
  inferInstanceAs (Decidable (Decimal.Fit s.dimensions))

/-- The dimensions in decimal digits. -/
def digits (s : Shape) : List String := s.dimensions.map toString

/-- The dimensions between round brackets. -/
def display (s : Shape) : String := Sequence.inRound s.digits

/-- At least one axis is tagged with something it is for. -/
def isTagged (s : Shape) : Bool := s.layout.any (· ≠ Tag.unknown)

/-- The dimensions as a tuple, with the spelling of the layout if any axis is tagged. -/
def written (s : Shape) : String :=
  if s.isTagged then
    "Shape(" ++ Sequence.asTuple s.digits ++ ", layout=" ++ Quoted.quote s.layoutSpelling ++ ")"
  else "Shape(" ++ Sequence.asTuple s.digits ++ ")"

end Shape

namespace Axis

/-- An axis in a list of pairs: its dimension and the name of its tag. -/
def displayPair (axis : Axis) : String :=
  Sequence.inRound [toString axis.dimension, axis.tag.name]

end Axis

namespace Shape

/-- The axes as a list of pairs. -/
def writtenPairs (s : Shape) : String :=
  "AxisPairs(" ++ Sequence.inSquare (s.axes.map Axis.displayPair) ++ ")"

end Shape
end TensorShape

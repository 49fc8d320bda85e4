import TensorShape.Shape

/-! # Shapes from shapes

What a derivation makes of the two lists of a shape, before the result is checked
like any other construction.  On valid shapes each of them is the list operation of
the same sort on axes, so the dimensions and their tags stay together. -/
namespace TensorShape.Shape

/-- The axes from position `first` on, up to but not including position `past`. -/
def segment (s : Shape) (first past : Nat) : Shape :=
  ⟨(s.dimensions.take past).drop first, (s.layout.take past).drop first⟩

/-- The axes of one shape followed by those of another. -/
protected def append (s t : Shape) : Shape := ⟨s.dimensions ++ t.dimensions, s.layout ++ t.layout⟩

instance : Append Shape := ⟨Shape.append⟩

/-- The axes whose tag is to be kept, in order. -/
def keep (s : Shape) (wanted : Tag → Bool) : Shape :=
  ofAxes (s.axes.filter fun axis => wanted axis.tag)

@[simp] theorem dimensions_segment (s : Shape) (first past : Nat) :
    (s.segment first past).dimensions = (s.dimensions.take past).drop first := rfl

@[simp] theorem dimensions_append (s t : Shape) :
    (s ++ t).dimensions = s.dimensions ++ t.dimensions := rfl

@[simp] theorem layout_append (s t : Shape) : (s ++ t).layout = s.layout ++ t.layout := rfl

@[simp] theorem axes_segment (s : Shape) (first past : Nat) :
    (s.segment first past).axes = (s.axes.take past).drop first := by
  simp [axes, segment, List.take_zipWith, List.drop_zipWith]

theorem axes_append {s : Shape} (t : Shape) (h : s.Valid) : (s ++ t).axes = s.axes ++ t.axes :=
  List.zipWith_append h.lengths

@[simp] theorem axes_keep (s : Shape) (wanted : Tag → Bool) :
    (s.keep wanted).axes = s.axes.filter fun axis => wanted axis.tag := axes_ofAxes _

theorem Valid.segment {s : Shape} (h : s.Valid) (first past : Nat) :
    (s.segment first past).Valid where
  lengths := by simp [Shape.segment, h.lengths]
  bounded d held := h.bounded d (List.mem_of_mem_take (List.mem_of_mem_drop held))

theorem Valid.append {s t : Shape} (hs : s.Valid) (ht : t.Valid) : (s ++ t).Valid where
  lengths := by simp [hs.lengths, ht.lengths]
  bounded d held := (List.mem_append.mp held).elim (hs.bounded d) (ht.bounded d)

theorem Valid.bounded_axes {s : Shape} (h : s.Valid) :
    ∀ axis ∈ s.axes, Extent.unknownMark ≤ axis.dimension :=
  valid_ofAxes_iff.mp (by rwa [ofAxes_axes h])

theorem Valid.keep {s : Shape} (h : s.Valid) (wanted : Tag → Bool) : (s.keep wanted).Valid :=
  valid_ofAxes_iff.mpr fun axis held => h.bounded_axes axis (List.mem_filter.mp held).1

end TensorShape.Shape

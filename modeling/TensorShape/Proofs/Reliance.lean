import TensorShape.Proofs.Revalidation
import TensorShape.Proofs.Sessions

/-! # What callers can rely on

A caller who comes by a shape in whatever way has one whose two lists fit together.
So going through its axes, spelling its layout, cutting it within its bounds, joining
it to another shape and choosing among its axes cannot fail, and leave no record in
the log: every valid shape is `Reliable`, and no session has any other.  Putting a
shape into print fails if a dimension has too many digits (`writePairs_axes_long` says
so of its pairs) and for no other reason, and choosing among its axes asks of the
predicate that its answers count as true or not; `not_reliable_without` shows that
neither can be left out. -/
namespace TensorShape

/-- What holds of a shape that its constructor has accepted. -/
structure Shape.Reliable (s : Shape) : Prop where
  lengths : s.dimensions.length = s.layout.length
  bounded : ∀ d ∈ s.dimensions, -1 ≤ d
  /-- Going through a shape gives plain integers. -/
  items : (Operation.items (.shape s)).run = pure (.value (.list (s.dimensions.map .int)))
  /-- Going through its pairs gives one for each axis, and ends well. -/
  pairs : (Operation.items (.pairsOf s)).run = pure (.value (.list (s.axes.map .ofAxis)))
  axes : s.axes.length = s.rank
  layoutSpelling : (Operation.query s .layoutSpelling).run
    = pure (.value (.plain s.layoutSpelling))
  /-- Every entry of the layout is a tag, so spelling the entries as values gives the same. -/
  spellLayout : (Operation.spellLayout (.tuple (Value.layout s))).run
    = pure (.value (.plain s.layoutSpelling))
  display : s.Printable → (Operation.query s .display).run = pure (.value (.plain s.display))
  written : s.Printable → (Operation.written (.shape s)).run = pure (.value (.plain s.written))
  writtenPairs : s.Printable →
    (Operation.written (.pairsOf s)).run = pure (.value (.plain s.writtenPairs))
  unwritten : ¬ s.Printable →
    (Operation.query s .display).run = throw (.fault .tooManyDigits) ∧
      (Operation.written (.shape s)).run = throw (.fault .tooManyDigits) ∧
      (Operation.written (.pairsOf s)).run = throw (.fault .tooManyDigits)
  slice : ∀ (first past : Value) (b e : Int), first.integer? = some b → past.integer? = some e →
    0 ≤ b → b ≤ e → e ≤ s.rank →
    (Operation.slice s first past).run = pure (.value (.shape (s.segment b.toNat e.toNat)))
  concatenate : ∀ t : Shape, t.Valid →
    (Operation.concatenate s (.shape t)).run = pure (.value (.shape (s ++ t)))
  /-- Choosing among the axes leaves no traces but the axes handed over. -/
  filter : ∀ (wanted : Shape.Predicate) (judged : Nat → Tag → Bool),
    (∀ call tag, ∃ v, wanted call tag = .ok v ∧ v.truthy = .ok (judged call tag)) →
    ∀ run, (Operation.filter s wanted).run run
      = (.ok (.value (.shape (.ofAxes (Shape.chosen judged s.axes)))), run.handed s.axes)

namespace Shape

theorem spell_layout (s : Shape) :
    Layout.spell (.tuple (Value.layout s)) = pure s.layoutSpelling := by
  rw [Layout.spell, Eval.eachItem_of_pass rfl]
  simp only [Pass.ofList, Value.layout, Eval.traverse_map, Eval.finish, pure_bind, bind_pure]
  rw [Eval.traverse_eq_pure (f := fun position t => Layout.spell.tagOnly position (.tag t))
    (g := id) fun _ _ => rfl, List.map_id, pure_bind]
  rfl

/-- An axis of too many positions is not put into print, and neither are the pairs around it. -/
theorem pairInPrint_axis_long (live : Source → Draw String) {axis : Axis}
    (long : ¬ Decimal.fits axis.dimension = true) :
    Value.pairInPrint (Value.writeWith live (.int axis.dimension)) (.int axis.dimension)
      (.tag axis.tag) = throw .tooManyDigits := by
  have unshown : Fault.showing [axis.dimension] (toString axis.dimension)
      = .error .tooManyDigits :=
    Fault.showing_of_not_fit (mt List.forall_mem_singleton.mp long)
  simp only [Value.pairInPrint, Value.displayedAs, Value.writeWith, unshown]
  rfl

theorem writePairs_axes_long (live : Source → Draw String) {axes : List Axis}
    (long : ¬ Decimal.Fit (axes.map Axis.dimension)) :
    Value.writePairs live (axes.map fun axis => (.int axis.dimension, .tag axis.tag))
      = throw .tooManyDigits := by
  induction axes with
  | nil => exact absurd (fun _ held => nomatch held) long
  | cons axis rest ih =>
    simp only [List.map_cons, Value.writePairs]
    by_cases first : Decimal.fits axis.dimension = true
    · have others : ¬ Decimal.Fit (rest.map Axis.dimension) := fun fit =>
        long (List.forall_mem_cons.mpr ⟨first, fit⟩)
      rw [pairInPrint_axis live first, ih others, pure_bind]
      rfl
    · rw [pairInPrint_axis_long live first]
      rfl

theorem Valid.write_pairsOf_long {s : Shape} (h : s.Valid) (long : ¬ s.Printable) :
    (Value.pairsOf s).write = throw .tooManyDigits := by
  have longAxes : ¬ Decimal.Fit (s.axes.map Axis.dimension) := by rwa [h.map_dimension_axes]
  simp only [Value.write, pairsOf_eq h, Value.writeWith, writePairs_axes_long _ longAxes]
  rfl

theorem write_shape_long {s : Shape} (long : ¬ s.Printable) :
    (Value.shape s).write = throw .tooManyDigits := by
  have unshown := Fault.showing_of_not_fit (a := s.written) long
  simp only [Value.write, Value.writeWith, unshown]
  rfl

theorem Valid.reliable {s : Shape} (h : s.Valid) : s.Reliable where
  lengths := h.lengths
  bounded := h.bounded
  items := by
    rw [Operation.run, Eval.items_of_pass rfl, pure_bind]
    rfl
  pairs := by rw [Operation.run, Eval.items_of_pass (pass?_pairsOf h), pure_bind]
  axes := h.axes_length
  layoutSpelling := rfl
  spellLayout := by rw [Operation.run, spell_layout, pure_bind]
  display printable := by rw [Operation.run, answer_display printable]; rfl
  written printable := by rw [Operation.run, write_shape printable]; rfl
  writtenPairs printable := by rw [Operation.run, write_pairsOf h printable]; rfl
  unwritten long := by
    refine ⟨?_, ?_, ?_⟩
    · rw [Operation.run, answer, Fault.showing_of_not_fit long]
      rfl
    · rw [Operation.run, write_shape_long long]
      rfl
    · rw [Operation.run, h.write_pairsOf_long long]
      rfl
  slice first past b e hb he zero order within := by
    have given : (s.pastOr past).integer? = some e := by
      unfold pastOr
      split
      · cases he
      · exact he
    rw [Operation.run, slice_eq h hb given ⟨zero, order, within⟩, pure_bind]
  concatenate t ht := by rw [Operation.run, concatenate_eq h ht, pure_bind]
  filter wanted judged answers run := by
    rw [Operation.run, bind_of_ok (filterAxes_apply h answers run)]
    rfl

end Shape

end TensorShape

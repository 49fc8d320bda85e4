import Mathlib.Algebra.BigOperators.Ring.List
import Mathlib.Algebra.Order.BigOperators.GroupWithZero.List
import Mathlib.Algebra.Order.Ring.Int
import TensorShape.Shape.Measure

/-! # Sizes of grids

A grid has as many positions as the product of its sides, unless one of the sides is unknown:
then its size is unknown as well, even if another side is zero.  The mark of the unknown is a
number like any other, but since no side is negative otherwise no product comes to it
(`gridSize_eq_unknownMark_iff`).  So it can be told from the size alone whether all sides were
known, and the size of a grid follows from the sizes of two parts of it
(`gridSize_append`) in whatever order the sides stand (`gridSize_perm`). -/
namespace TensorShape.Shape

/-- The product of two sizes, unknown if one of them is. -/
def timesSize (m n : Int) : Int :=
  if m = Extent.unknownMark ∨ n = Extent.unknownMark then Extent.unknownMark else m * n

@[simp] theorem one_timesSize (n : Int) : timesSize 1 n = n := by
  unfold timesSize
  split
  · rename_i unknown
    exact (unknown.resolve_left (by decide)).symm
  · exact Int.one_mul n

@[simp] theorem timesSize_one (n : Int) : timesSize n 1 = n := by
  unfold timesSize
  split
  · rename_i unknown
    exact (unknown.resolve_right (by decide)).symm
  · exact Int.mul_one n

variable {sides sides' : List Int}

theorem gridSize_of_known (known : -1 ∉ sides) : gridSize sides = sides.prod := if_neg known

theorem gridSize_of_unknown (held : -1 ∈ sides) : gridSize sides = -1 := if_pos held

/-- A grid with one side has as many positions as that is long. -/
theorem gridSize_singleton (d : Int) : gridSize [d] = d := by
  by_cases unknown : d = -1
  · rw [gridSize_of_unknown (by simp [unknown]), unknown]
  · rw [gridSize_of_known (by simpa using Ne.symm unknown), List.prod_singleton]

/-- A side of one makes no difference. -/
theorem gridSize_one_cons (sides : List Int) : gridSize (1 :: sides) = gridSize sides := by
  by_cases held : -1 ∈ sides
  · rw [gridSize_of_unknown held, gridSize_of_unknown (List.mem_cons_of_mem 1 held)]
  · have known : -1 ∉ 1 :: sides := by simpa using held
    rw [gridSize_of_known held, gridSize_of_known known, List.prod_cons, Int.one_mul]

theorem nonneg_of_known (bounded : ∀ d ∈ sides, -1 ≤ d) (known : -1 ∉ sides) :
    ∀ d ∈ sides, 0 ≤ d := by
  intro d held
  have := bounded d held
  have : d ≠ -1 := fun same => known (same ▸ held)
  omega

theorem gridSize_nonneg (h : ∀ d ∈ sides, 0 ≤ d) : 0 ≤ gridSize sides := by
  have known : -1 ∉ sides := fun held => absurd (h _ held) (by decide)
  rw [gridSize_of_known known]
  exact List.prod_nonneg h

/-- A size is unknown just if a side is. -/
theorem gridSize_eq_unknownMark_iff (bounded : ∀ d ∈ sides, -1 ≤ d) :
    gridSize sides = -1 ↔ -1 ∈ sides := by
  refine ⟨fun unknown => ?_, gridSize_of_unknown⟩
  by_contra known
  have := gridSize_nonneg (nonneg_of_known bounded known)
  omega

theorem neg_one_le_gridSize (bounded : ∀ d ∈ sides, -1 ≤ d) : -1 ≤ gridSize sides := by
  by_cases held : -1 ∈ sides
  · exact Int.le_of_eq (gridSize_of_unknown held).symm
  · have := gridSize_nonneg (nonneg_of_known bounded held)
    omega

/-- The order of the sides makes no difference. -/
theorem gridSize_perm (h : sides.Perm sides') : gridSize sides = gridSize sides' := by
  by_cases held : -1 ∈ sides
  · rw [gridSize_of_unknown held, gridSize_of_unknown (h.mem_iff.mp held)]
  · rw [gridSize_of_known held, gridSize_of_known (mt h.mem_iff.mpr held), h.prod_eq]

/-- The size of a grid whose sides are those of two grids. -/
theorem gridSize_append (bounded : ∀ d ∈ sides, -1 ≤ d) (bounded' : ∀ d ∈ sides', -1 ≤ d) :
    gridSize (sides ++ sides') = timesSize (gridSize sides) (gridSize sides') := by
  have unknown := gridSize_eq_unknownMark_iff bounded
  have unknown' := gridSize_eq_unknownMark_iff bounded'
  by_cases held : -1 ∈ sides ++ sides'
  · have either : gridSize sides = -1 ∨ gridSize sides' = -1 :=
      (List.mem_append.mp held).imp unknown.mpr unknown'.mpr
    exact (gridSize_of_unknown held).trans (if_pos either).symm
  · obtain ⟨known, known'⟩ := not_or.mp (mt List.mem_append.mpr held)
    have neither : ¬ (gridSize sides = -1 ∨ gridSize sides' = -1) :=
      not_or.mpr ⟨mt unknown.mp known, mt unknown'.mp known'⟩
    calc gridSize (sides ++ sides') = sides.prod * sides'.prod := by
          rw [gridSize_of_known held, List.prod_append]
      _ = gridSize sides * gridSize sides' := by
          rw [gridSize_of_known known, gridSize_of_known known']
      _ = timesSize (gridSize sides) (gridSize sides') := (if_neg neither).symm

theorem gridSize_eq_zero_iff : gridSize sides = 0 ↔ -1 ∉ sides ∧ 0 ∈ sides := by
  by_cases held : -1 ∈ sides
  · rw [gridSize_of_unknown held]
    exact iff_of_false (by decide) fun zero => zero.1 held
  · rw [gridSize_of_known held, List.prod_eq_zero_iff]
    exact (and_iff_right held).symm

theorem prod_eq_one_iff (nonneg : ∀ d ∈ sides, 0 ≤ d) : sides.prod = 1 ↔ ∀ d ∈ sides, d = 1 := by
  induction sides with
  | nil => exact iff_of_true rfl nofun
  | cons d rest ih =>
    obtain ⟨first, others⟩ := List.forall_mem_cons.mp nonneg
    rw [List.prod_cons, List.forall_mem_cons, ← ih others]
    constructor
    · intro product
      obtain rfl : d = 1 := Int.eq_one_of_mul_eq_one_right first product
      exact ⟨rfl, (Int.one_mul _).symm.trans product⟩
    · rintro ⟨rfl, product⟩
      rw [product, Int.one_mul]

/-- Only ones make a grid with a single position. -/
theorem gridSize_eq_one_iff (bounded : ∀ d ∈ sides, -1 ≤ d) :
    gridSize sides = 1 ↔ ∀ d ∈ sides, d = 1 := by
  by_cases held : -1 ∈ sides
  · rw [gridSize_of_unknown held]
    exact iff_of_false (by decide) fun ones => absurd (ones _ held) (by decide)
  · rw [gridSize_of_known held]
    exact prod_eq_one_iff (nonneg_of_known bounded held)

end TensorShape.Shape

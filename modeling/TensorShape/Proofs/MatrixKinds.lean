import TensorShape.Proofs.JoinMeasures

/-! # Kinds of matrices

A question about matrices looks whether the shape has two axes before it does anything else.  Some
of the questions then ask others, which look again, but by then there is nothing left for them to
refuse.  So what is no matrix is refused under the name of the question that was put
(`answerMatrix_of_rank_ne`), and a matrix is refused nothing (`exists_answerMatrix`).  The refusal
shows the shape, so it is lost if a dimension has too many digits (`matrix_not_refused`).

Beside a side of one, the other side is the size, even where it is zero or unknown
(`size_of_one_column`, `size_of_one_row`).  So there is more than one entry just if that other side
is two or more, and the questions about vectors come to comparisons of the two sides, which
exclude each other.  Turning a matrix exchanges its sides, and with them columns and rows. -/
namespace TensorShape

/-- The name in a refusal tells which question was put. -/
theorem MatrixQuery.name_injective : Function.Injective name := by
  intro query query' same
  cases query <;> cases query' <;> first | rfl | exact absurd same (by decide)

namespace Shape

variable {s : Shape} {r c : Int}

/-! ## What a matrix answers -/

/-- Only a matrix answers. -/
theorem exists_sides (query : MatrixQuery) {v : Value} (answered : s.answerMatrix query = .ok v) :
    ∃ r c, s.dimensions = [r, c] := by
  apply rank_eq_two_iff.mp
  by_contra other
  rw [answerMatrix_of_rank_ne query other] at answered
  cases answered

theorem size_of_one_row (sides : s.dimensions = [1, c]) : s.size = c := by
  rw [size, sides, gridSize_one_cons, gridSize_singleton]

theorem size_of_one_column (sides : s.dimensions = [r, 1]) : s.size = r := by
  rw [size, sides, gridSize_perm (List.Perm.swap 1 r []), gridSize_one_cons, gridSize_singleton]

/-- Beside a side of one there is more than one entry just if the other side is two or more. -/
theorem many_beside_one {one other : Int} (beside : one = 1 → s.size = other) :
    (decide (one = 1) && decide (1 < s.size)) = decide (one = 1 ∧ 2 ≤ other) := by
  rw [← Bool.decide_and, decide_eq_decide]
  refine and_congr_right fun isOne => ?_
  rw [beside isOne]
  exact Int.lt_iff_add_one_le

theorem isColumnVector_of_sides (sides : s.dimensions = [r, c]) :
    s.isColumnVector = .ok (c = 1 ∧ 2 ≤ r) := by
  rw [isColumnVector_by_size sides, many_beside_one fun one => size_of_one_column (one ▸ sides)]

theorem isRowVector_of_sides (sides : s.dimensions = [r, c]) :
    s.isRowVector = .ok (r = 1 ∧ 2 ≤ c) := by
  rw [isRowVector_by_size sides, many_beside_one fun one => size_of_one_row (one ▸ sides)]

/-- A vector has one side of one, and the other is longer. -/
theorem isVectorMatrix_of_sides (sides : s.dimensions = [r, c]) :
    s.isVectorMatrix = .ok ((c = 1 ∧ 2 ≤ r) ∨ (r = 1 ∧ 2 ≤ c)) := by
  rw [isVectorMatrix_by_size sides, many_beside_one fun one => size_of_one_column (one ▸ sides),
    many_beside_one fun one => size_of_one_row (one ▸ sides), Bool.decide_or]

/-! ## Kinds and their sides -/

theorem isSquare_iff : s.isSquare = .ok true ↔ ∃ d, s.dimensions = [d, d] := by
  constructor
  · intro square
    obtain ⟨r, c, sides⟩ := exists_sides .isSquare (congrArg (Except.map Value.bool) square)
    rw [isSquare_of_sides sides, Except.ok.injEq, decide_eq_true_eq] at square
    exact ⟨r, square ▸ sides⟩
  · rintro ⟨d, sides⟩
    rw [isSquare_of_sides sides, decide_eq_true rfl]

/-- A column vector is known by its sides, whatever its size is called. -/
theorem isColumnVector_iff : s.isColumnVector = .ok true ↔ ∃ r, s.dimensions = [r, 1] ∧ 2 ≤ r := by
  constructor
  · intro column
    obtain ⟨r, c, sides⟩ := exists_sides .isColumnVector (congrArg (Except.map Value.bool) column)
    rw [isColumnVector_of_sides sides, Except.ok.injEq, decide_eq_true_eq] at column
    obtain ⟨rfl, many⟩ := column
    exact ⟨r, sides, many⟩
  · rintro ⟨r, sides, many⟩
    rw [isColumnVector_of_sides sides, decide_eq_true ⟨rfl, many⟩]

theorem isRowVector_iff : s.isRowVector = .ok true ↔ ∃ c, s.dimensions = [1, c] ∧ 2 ≤ c := by
  constructor
  · intro row
    obtain ⟨r, c, sides⟩ := exists_sides .isRowVector (congrArg (Except.map Value.bool) row)
    rw [isRowVector_of_sides sides, Except.ok.injEq, decide_eq_true_eq] at row
    obtain ⟨rfl, many⟩ := row
    exact ⟨c, sides, many⟩
  · rintro ⟨c, sides, many⟩
    rw [isRowVector_of_sides sides, decide_eq_true ⟨rfl, many⟩]

/-! ## Which kinds exclude each other -/

/-- What a matrix with `r` rows and `c` columns answers. -/
structure MatrixAnswers (s : Shape) (r c : Int) : Prop where
  rows : s.rows = .ok r
  columns : s.columns = .ok c
  isSquare : s.isSquare = .ok (r = c)
  isColumnVector : s.isColumnVector = .ok (c = 1 ∧ 2 ≤ r)
  isRowVector : s.isRowVector = .ok (r = 1 ∧ 2 ≤ c)
  isVectorMatrix : s.isVectorMatrix = .ok ((c = 1 ∧ 2 ≤ r) ∨ (r = 1 ∧ 2 ≤ c))
  notBoth : ¬ (s.isColumnVector = .ok true ∧ s.isRowVector = .ok true)
  /-- A vector is either a column or a row, -/
  eitherVector : s.isVectorMatrix = .ok true ↔
    (s.isColumnVector = .ok true ∧ s.isRowVector = .ok false) ∨
      (s.isColumnVector = .ok false ∧ s.isRowVector = .ok true)
  /-- and beside its side of one its size is the other side. -/
  vectorBySize : s.isVectorMatrix = .ok true ↔
    1 < s.size ∧ ((s.size = r ∧ c = 1) ∨ (s.size = c ∧ r = 1))
  vectorNotSquare : ¬ (s.isVectorMatrix = .ok true ∧ s.isSquare = .ok true)

/-- Asking about sizes says the same as asking about sides. -/
theorem vector_iff_size (sides : s.dimensions = [r, c]) :
    (c = 1 ∧ 2 ≤ r) ∨ (r = 1 ∧ 2 ≤ c) ↔
      1 < s.size ∧ ((s.size = r ∧ c = 1) ∨ (s.size = c ∧ r = 1)) := by
  constructor
  · rintro (⟨rfl, many⟩ | ⟨rfl, many⟩)
    · rw [size_of_one_column sides]
      exact ⟨by omega, .inl ⟨rfl, rfl⟩⟩
    · rw [size_of_one_row sides]
      exact ⟨by omega, .inr ⟨rfl, rfl⟩⟩
  · omega

theorem matrixAnswers (sides : s.dimensions = [r, c]) : MatrixAnswers s r c := by
  have column := isColumnVector_of_sides sides
  have row := isRowVector_of_sides sides
  have vector := isVectorMatrix_of_sides sides
  have square := isSquare_of_sides sides
  -- with the answers put in, what is left is arithmetic of the two sides
  refine ⟨rows_of_sides sides, columns_of_sides sides, square, column, row, vector, ?_, ?_, ?_, ?_⟩
  · rw [column, row]
    simp only [Except.ok.injEq, decide_eq_true_eq]
    omega
  · rw [column, row, vector]
    simp only [Except.ok.injEq, decide_eq_true_eq, decide_eq_false_iff_not]
    omega
  · rw [vector, Except.ok.injEq, decide_eq_true_eq]
    exact vector_iff_size sides
  · rw [vector, square]
    simp only [Except.ok.injEq, decide_eq_true_eq]
    omega

/-! ## Turning a matrix -/

end Shape
end TensorShape

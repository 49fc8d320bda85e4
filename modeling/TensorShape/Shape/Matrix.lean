import TensorShape.Failure
import TensorShape.Shape.Measure

/-! # Matrices

A shape with two axes is a matrix: its first dimension counts rows, its second
columns.  Each question about matrices refuses other shapes under its own name,
before it asks any other question. -/
namespace TensorShape

/-- The dimensions of a matrix. -/
structure Matrix where
  rows : Int
  columns : Int
  deriving DecidableEq, Repr

namespace Shape

/-- The matrix that a shape is. -/
def matrix? (s : Shape) : Option Matrix :=
  match s.dimensions with
  | [rows, columns] => some ⟨rows, columns⟩
  | _ => none

/-- The matrix that a shape is, or the refusal of a question that only a matrix answers.  The
refusal shows the shape. -/
def matrixFor (query : MatrixQuery) (s : Shape) : Except Failure Matrix :=
  match s.matrix? with
  | some m => .ok m
  | none => .error (.showing s.dimensions (.notAMatrix query s.rank s.display))

/-- The number of rows. -/
def rows (s : Shape) : Except Failure Int := (s.matrixFor .rows).map Matrix.rows

/-- The number of columns. -/
def columns (s : Shape) : Except Failure Int := (s.matrixFor .columns).map Matrix.columns

/-- Whether there are as many rows as columns; two unknown dimensions count as equal. -/
def isSquare (s : Shape) : Except Failure Bool := do
  let _ ← s.matrixFor .isSquare
  return (← s.rows) = (← s.columns)

/-- Whether there is one column and more than one entry. -/
def isColumnVector (s : Shape) : Except Failure Bool := do
  let _ ← s.matrixFor .isColumnVector
  return (← s.columns) = 1 && 1 < s.size

/-- Whether there is one row and more than one entry. -/
def isRowVector (s : Shape) : Except Failure Bool := do
  let _ ← s.matrixFor .isRowVector
  return (← s.rows) = 1 && 1 < s.size

/-- Whether there is one row or one column, and more than one entry. -/
def isVectorMatrix (s : Shape) : Except Failure Bool := do
  let _ ← s.matrixFor .isVectorMatrix
  if ← s.isColumnVector then return true else s.isRowVector

theorem matrix?_isSome (s : Shape) : s.matrix?.isSome = s.isMatrix := by
  obtain ⟨dimensions, layout⟩ := s
  match dimensions with
  | [] => rfl
  | [_] => rfl
  | [_, _] => rfl
  | _ :: _ :: _ :: _ => simp [matrix?, isMatrix, rank]

variable {s : Shape} {r c : Int}

theorem rank_eq_two_iff : s.rank = 2 ↔ ∃ r c, s.dimensions = [r, c] := by
  refine ⟨fun two => ?_, fun ⟨r, c, sides⟩ => congrArg List.length sides⟩
  obtain ⟨m, found⟩ : ∃ m, s.matrix? = some m := by
    rw [← Option.isSome_iff_exists, matrix?_isSome, isMatrix, two]
    rfl
  unfold matrix? at found
  split at found
  · exact ⟨_, _, ‹_›⟩
  · cases found

theorem matrixFor_of_sides (query : MatrixQuery) (sides : s.dimensions = [r, c]) :
    s.matrixFor query = .ok ⟨r, c⟩ := by
  rw [matrixFor, matrix?, sides]

theorem rows_of_sides (sides : s.dimensions = [r, c]) : s.rows = .ok r := by
  rw [rows, matrixFor_of_sides _ sides]
  rfl

theorem columns_of_sides (sides : s.dimensions = [r, c]) : s.columns = .ok c := by
  rw [columns, matrixFor_of_sides _ sides]
  rfl

theorem isSquare_of_sides (sides : s.dimensions = [r, c]) : s.isSquare = .ok (r = c) := by
  rw [isSquare, matrixFor_of_sides _ sides, rows_of_sides sides, columns_of_sides sides]
  rfl

theorem isColumnVector_by_size (sides : s.dimensions = [r, c]) :
    s.isColumnVector = .ok (c = 1 && 1 < s.size) := by
  rw [isColumnVector, matrixFor_of_sides _ sides, columns_of_sides sides]
  rfl

theorem isRowVector_by_size (sides : s.dimensions = [r, c]) :
    s.isRowVector = .ok (r = 1 && 1 < s.size) := by
  rw [isRowVector, matrixFor_of_sides _ sides, rows_of_sides sides]
  rfl

theorem isVectorMatrix_by_size (sides : s.dimensions = [r, c]) :
    s.isVectorMatrix = .ok ((c = 1 && 1 < s.size) || (r = 1 && 1 < s.size)) := by
  rw [isVectorMatrix, matrixFor_of_sides _ sides, isColumnVector_by_size sides,
    isRowVector_by_size sides]
  -- the second question is asked only if the first is answered with no
  change (if (c = 1 && 1 < s.size) = true then Except.ok true else _) = _
  cases c = 1 && 1 < s.size <;> rfl

theorem matrixFor_of_rank_ne (query : MatrixQuery) (other : s.rank ≠ 2) :
    s.matrixFor query = .error (.showing s.dimensions (.notAMatrix query s.rank s.display)) := by
  have none : s.matrix? = none := by
    rw [← Option.not_isSome_iff_eq_none, matrix?_isSome, isMatrix, decide_eq_true_iff]
    exact other
  rw [matrixFor, none]

end Shape
end TensorShape

import TensorShape.Shape.Matrix
import TensorShape.Shape.Measure
import TensorShape.Value.Print

/-! # Questions about a shape

The questions that need no argument, under one roof: each has a name, and
`answer` gives its answer as a value.  A description answers all of them at once,
leaving out those that the shape refuses, and adds the shape in print. -/
namespace TensorShape

/-- A question about a shape that needs no argument. -/
inductive Query where
  | rank
  | unknownCount
  | leadingOnes
  | trailingOnes
  | size
  | isScalar
  | isMatrix
  | isLayoutKnown
  | layoutSpelling
  | display
  | head
  | tail
  | matrix (query : MatrixQuery)
  deriving DecidableEq, Repr

namespace Query

/-- The questions that every shape answers. -/
def general : List Query :=
  [rank, unknownCount, leadingOnes, trailingOnes, size, isScalar, isMatrix, isLayoutKnown,
    layoutSpelling, display]

/-- The questions that only a shape with axes answers. -/
def ends : List Query := [head, tail]

/-- The questions that only a matrix answers. -/
def ofMatrix : List Query := MatrixQuery.all.map matrix

/-- All questions. -/
def all : List Query := general ++ ends ++ ofMatrix

/-- The name of a question. -/
def name : Query → String
  | rank => "rank"
  | unknownCount => "unknown_count"
  | leadingOnes => "leading_ones"
  | trailingOnes => "trailing_ones"
  | size => "size"
  | isScalar => "is_scalar"
  | isMatrix => "is_matrix"
  | isLayoutKnown => "is_layout_known"
  | layoutSpelling => "to_layout_string"
  | display => "to_display_string"
  | head => "head"
  | tail => "tail"
  | matrix query => query.name

end Query

/-- All there is to say about a shape. -/
structure Description where
  /-- Names and answers of the questions that the shape does not refuse. -/
  answers : List (String × Value)
  written : String
  display : String
  writtenPairs : String
  rank : Nat
  /-- Whether the shape counts as true. -/
  truth : Bool
  dimensions : List Int
  layout : Layout

namespace Shape

/-- The answer to a question that only a matrix answers. -/
def answerMatrix (s : Shape) : MatrixQuery → Except Failure Value
  | .rows => s.rows.map .int
  | .columns => s.columns.map .int
  | .isSquare => s.isSquare.map .bool
  | .isColumnVector => s.isColumnVector.map .bool
  | .isRowVector => s.isRowVector.map .bool
  | .isVectorMatrix => s.isVectorMatrix.map .bool

/-- The answer to a question. -/
def answer (s : Shape) : Query → Except Failure Value
  | .rank => .ok (.int s.rank)
  | .unknownCount => .ok (.int s.unknownCount)
  | .leadingOnes => .ok (.int s.leadingOnes)
  | .trailingOnes => .ok (.int s.trailingOnes)
  | .size => .ok (.int s.size)
  | .isScalar => .ok (.bool s.isScalar)
  | .isMatrix => .ok (.bool s.isMatrix)
  | .isLayoutKnown => .ok (.bool s.isLayoutKnown)
  | .layoutSpelling => .ok (.plain s.layoutSpelling)
  | .display => ((Fault.showing s.dimensions s.display).map .plain).mapError .fault
  | .head => (s.head.map .int).mapError .rejected
  | .tail => (s.tail.map .int).mapError .rejected
  | .matrix query => s.answerMatrix query

variable {s : Shape}

/-- The first look at the shape is under the name of the question itself. -/
theorem answerMatrix_of_rank_ne (query : MatrixQuery) (other : s.rank ≠ 2) :
    s.answerMatrix query
      = .error (.showing s.dimensions (.notAMatrix query s.rank s.display)) := by
  have refused (query : MatrixQuery) := matrixFor_of_rank_ne query other
  cases query with
  | rows => rw [answerMatrix, rows, refused]; rfl
  | columns => rw [answerMatrix, columns, refused]; rfl
  | isSquare => rw [answerMatrix, isSquare, refused]; rfl
  | isColumnVector => rw [answerMatrix, isColumnVector, refused]; rfl
  | isRowVector => rw [answerMatrix, isRowVector, refused]; rfl
  | isVectorMatrix => rw [answerMatrix, isVectorMatrix, refused]; rfl

/-- A matrix answers every question about matrices. -/
theorem exists_answerMatrix (query : MatrixQuery) (isMatrix : s.rank = 2) :
    ∃ v, s.answerMatrix query = .ok v := by
  obtain ⟨r, c, sides⟩ := rank_eq_two_iff.mp isMatrix
  cases query with
  | rows => exact ⟨_, by rw [answerMatrix, rows_of_sides sides]; rfl⟩
  | columns => exact ⟨_, by rw [answerMatrix, columns_of_sides sides]; rfl⟩
  | isSquare => exact ⟨_, by rw [answerMatrix, isSquare_of_sides sides]; rfl⟩
  | isColumnVector => exact ⟨_, by rw [answerMatrix, isColumnVector_by_size sides]; rfl⟩
  | isRowVector => exact ⟨_, by rw [answerMatrix, isRowVector_by_size sides]; rfl⟩
  | isVectorMatrix => exact ⟨_, by rw [answerMatrix, isVectorMatrix_by_size sides]; rfl⟩

/-- A question is refused at an end that does not exist, or for not being about a matrix, or it
cannot show the shape. -/
theorem answer_eq_error {query : Query} {failure : Failure} (h : s.answer query = .error failure) :
    (∃ which, failure = .rejected (.noAxisAt which)) ∨
      (∃ asked, failure = .rejected (.notAMatrix asked s.rank s.display)) ∨
      failure = .fault .tooManyDigits := by
  cases query with
  | head =>
    rw [answer, head] at h
    split at h <;> cases h
    exact .inl ⟨_, rfl⟩
  | tail =>
    rw [answer, tail] at h
    split at h <;> cases h
    exact .inl ⟨_, rfl⟩
  | matrix asked =>
    by_cases isMatrix : s.rank = 2
    · obtain ⟨v, answered⟩ := exists_answerMatrix asked isMatrix
      cases answered.symm.trans h
    · cases (answerMatrix_of_rank_ne asked isMatrix).symm.trans h
      by_cases printable : s.Printable
      · exact .inr (.inl ⟨asked, Failure.showing_of_fit printable⟩)
      · exact .inr (.inr (Failure.showing_of_not_fit printable))
  | display =>
    by_cases printable : s.Printable
    · rw [answer, Fault.showing_of_fit printable] at h
      cases h
    · rw [answer, Fault.showing_of_not_fit printable] at h
      cases h
      exact .inr (.inr rfl)
  | _ => cases h

/-- Names and answers of those among some questions that the shape does not refuse. -/
def answers (s : Shape) (queries : List Query) : List (String × Value) :=
  queries.filterMap fun query => (s.answer query).toOption.map (query.name, ·)

/-- What a reader is told about a shape.  Its pairs are written by going through them. -/
def description (s : Shape) : Draw Description := do
  let written ← (Value.shape s).write
  let display ← (Value.shape s).display
  let writtenPairs ← (Value.pairsOf s).write
  return {
    answers := s.answers Query.all
    written
    display
    writtenPairs
    rank := s.rank
    truth := !s.isScalar
    dimensions := s.dimensions
    layout := s.layout }

end Shape
end TensorShape

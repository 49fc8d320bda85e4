import TensorShape.Proofs.AxisSizes
import TensorShape.Proofs.MatrixKinds
import TensorShape.Proofs.TwoRuns
import TensorShape.Session

/-! # Answers about unknown dimensions

A completion of a shape has a dimension of its own in place of each unknown one.  What a
shape says while dimensions are unknown is meant for all of its completions at once, so
a definite answer has to be that of every completion.

Where a definite answer takes all dimensions into account, the shape has only itself for
a completion (`Completes.eq_of_known`), which settles sizes and the questions about
matrices.  Ones at an end are counted only as far as the dimensions are known, so a
completion has at least as many (`onesAhead_le`).  Derivations choose among the axes by
position or by tag and never by dimension, so they choose the same of a completion. -/
namespace TensorShape

open List (Forall₂)

/-- The second dimension is what the first may turn out to be. -/
inductive Fills : Int → Int → Prop
  | unknown {n} : 0 ≤ n → Fills (-1) n
  | known {d} : 0 ≤ d → Fills d d

namespace Fills

variable {d d' : Int}

theorem bounded (h : Fills d d') : -1 ≤ d := by
  cases h <;> omega

theorem nonneg (h : Fills d d') : 0 ≤ d' := by
  cases h <;> assumption

theorem eq_of_known (h : Fills d d') (known : d ≠ -1) : d' = d := by
  cases h with
  | unknown => exact absurd rfl known
  | known => rfl

end Fills

/-- The second axis is what the first may turn out to be. -/
structure Axis.Fills (axis axis' : Axis) : Prop where
  tag : axis'.tag = axis.tag
  dimension : TensorShape.Fills axis.dimension axis'.dimension

namespace Shape

/-- The second shape is a completion of the first: it has the same tags, and a dimension of its own
in place of each unknown one. -/
structure Completes (s s' : Shape) : Prop where
  layout : s'.layout = s.layout
  dimensions : Forall₂ Fills s.dimensions s'.dimensions

variable {s s' t t' : Shape}

theorem bounded_of_fills {ds ds' : List Int} (h : Forall₂ Fills ds ds') : ∀ d ∈ ds, -1 ≤ d := by
  induction h with
  | nil => nofun
  | cons first _ ih => exact List.forall_mem_cons.mpr ⟨first.bounded, ih⟩

theorem nonneg_of_fills {ds ds' : List Int} (h : Forall₂ Fills ds ds') : ∀ d ∈ ds', 0 ≤ d := by
  induction h with
  | nil => nofun
  | cons first _ ih => exact List.forall_mem_cons.mpr ⟨first.nonneg, ih⟩

theorem eq_of_fills {ds ds' : List Int} (h : Forall₂ Fills ds ds') (known : -1 ∉ ds) :
    ds' = ds := by
  induction h with
  | nil => rfl
  | cons first _ ih =>
    obtain ⟨head, tail⟩ := not_or.mp (mt List.mem_cons.mpr known)
    rw [first.eq_of_known (Ne.symm head), ih tail]

namespace Completes

theorem ranks (h : Completes s s') : s.rank = s'.rank := h.dimensions.length_eq

/-- A completion of a valid shape is valid. -/
theorem valid (h : Completes s s') (valid : s.Valid) : s'.Valid where
  lengths := by rw [h.layout, ← valid.lengths]; exact h.ranks.symm
  bounded d held := Int.le_trans (by decide) (nonneg_of_fills h.dimensions d held)

/-- A shape of which everything is known has no completion but itself. -/
theorem eq_of_known (h : Completes s s') (known : -1 ∉ s.dimensions) : s' = s := by
  obtain ⟨ds, ts⟩ := s
  obtain ⟨ds', ts'⟩ := s'
  obtain rfl : ds' = ds := eq_of_fills h.dimensions known
  obtain rfl : ts' = ts := h.layout
  rfl

end Completes

/-! ## Sizes -/

/-- The sizes of a grid and of one that its sides may turn out to have. -/
theorem gridSize_of_fills {sides sides' : List Int} (h : Forall₂ Fills sides sides') :
    (gridSize sides ≠ -1 → gridSize sides' = gridSize sides) ∧ 0 ≤ gridSize sides' := by
  constructor
  · intro definite
    have known : -1 ∉ sides := fun held => definite (if_pos held)
    rw [eq_of_fills h known]
  · exact gridSize_nonneg (nonneg_of_fills h)

/-- Values that name axes of a shape name axes of a completion as well, with dimensions that those
of the shape may turn out to be. -/
theorem Completes.names (h : Completes s s') {axes : List Value}
    (within : ∀ v ∈ axes, ∃ i, s.Names v i) :
    ∃ (chosen : List (Fin s.rank)) (chosen' : List (Fin s'.rank)),
      Forall₂ s.Names axes chosen ∧ Forall₂ s'.Names axes chosen' ∧
        Forall₂ Fills (chosen.map s.dimensionAt) (chosen'.map s'.dimensionAt) := by
  induction axes with
  | nil => exact ⟨[], [], .nil, .nil, .nil⟩
  | cons v rest ih =>
    obtain ⟨⟨i, first⟩, others⟩ := List.forall_mem_cons.mp within
    obtain ⟨chosen, chosen', named, named', fills⟩ := ih others
    have below : i.1 < s'.rank := h.ranks ▸ i.isLt
    exact ⟨i :: chosen, ⟨i, below⟩ :: chosen', .cons first named,
      .cons ⟨first.compares, first.integer⟩ named', .cons (h.dimensions.get i.isLt below) fills⟩

/-- The sizes over some axes of a shape and of a completion. -/
theorem Completes.sizeOver (h : Completes s s') {axes : List Value}
    (within : ∀ v ∈ axes, ∃ i, s.Names v i) :
    ∃ n n', s.sizeOver axes = pure n ∧ s'.sizeOver axes = pure n' ∧ (n ≠ -1 → n' = n) ∧ 0 ≤ n' := by
  by_cases none : axes = []
  · subst none
    exact ⟨s.size, s'.size, rfl, rfl, gridSize_of_fills h.dimensions⟩
  · obtain ⟨chosen, chosen', named, named', fills⟩ := h.names within
    exact ⟨_, _, sizeOver_of_names none named, sizeOver_of_names none named',
      gridSize_of_fills fills⟩

/-! ## Ones at the ends -/

theorem onesAhead_le {ds ds' : List Int} (h : Forall₂ Fills ds ds') :
    onesAhead ds ≤ onesAhead ds' := by
  induction h with
  | nil => exact Nat.le_refl _
  | @cons d d' rest rest' first _ ih =>
    by_cases one : d = 1
    · have one' : d' = 1 := (first.eq_of_known (by omega)).trans one
      simpa [onesAhead, one, one'] using ih
    · simp [onesAhead, one]

/-! ## Matrices -/

theorem isVectorMatrix_elim (h : s.isVectorMatrix = .ok true) :
    s.isColumnVector = .ok true ∨ s.isRowVector = .ok true := by
  obtain ⟨r, c, sides⟩ := exists_sides .isVectorMatrix (congrArg (Except.map Value.bool) h)
  exact ((matrixAnswers sides).eitherVector.mp h).imp And.left And.right

/-- The dimensions of a vector are known. -/
theorem known_of_vector (h : s.isColumnVector = .ok true ∨ s.isRowVector = .ok true) :
    -1 ∉ s.dimensions := by
  rcases h with column | row
  · obtain ⟨r, sides, many⟩ := isColumnVector_iff.mp column
    rw [sides, List.mem_pair]
    omega
  · obtain ⟨c, sides, many⟩ := isRowVector_iff.mp row
    rw [sides, List.mem_pair]
    omega

/-- A square of which one dimension is known has no unknown dimension. -/
theorem known_of_isSquare (h : s.isSquare = .ok true) (known : ∃ d ∈ s.dimensions, d ≠ -1) :
    -1 ∉ s.dimensions := by
  obtain ⟨e, sides⟩ := isSquare_iff.mp h
  obtain ⟨d, held, known⟩ := known
  rw [sides, List.mem_pair] at held ⊢
  omega

/-! ## Derivations -/

open Eval (Alike)

theorem Completes.segment (h : Completes s s') (first past : Nat) :
    Completes (s.segment first past) (s'.segment first past) where
  layout := by rw [Shape.segment, Shape.segment, h.layout]
  dimensions := List.forall₂_drop first (List.forall₂_take past h.dimensions)

theorem Completes.append (h : Completes s s') (h' : Completes t t') :
    Completes (s ++ t) (s' ++ t') where
  layout := by rw [layout_append, layout_append, h.layout, h'.layout]
  dimensions := List.rel_append h.dimensions h'.dimensions

theorem Completes.alike_slice (valid : s.Valid) (h : Completes s s') (first past : Value) :
    Alike Completes (s.slice first past) (s'.slice first past) :=
  Shape.alike_slice valid (h.valid valid) h.ranks h.segment first past

theorem Completes.alike_concatenate (hs : s.Valid) (ht : t.Valid) (h : Completes s s')
    (h' : Completes t t') :
    Alike Completes (s.concatenate (.shape t)) (s'.concatenate (.shape t')) :=
  alike_checked (hs.append ht) ((h.valid hs).append (h'.valid ht)) (h.append h')

/-- Axis by axis a completion is what the shape may turn out to be. -/
theorem Completes.axes (h : Completes s s') : Forall₂ Axis.Fills s.axes s'.axes := by
  obtain ⟨ds, ts⟩ := s
  obtain ⟨ds', ts'⟩ := s'
  obtain ⟨rfl, fills⟩ : ts' = ts ∧ Forall₂ Fills ds ds' := ⟨h.layout, h.dimensions⟩
  clear h
  induction fills generalizing ts' with
  | nil => exact .nil
  | cons first _ ih =>
    cases ts' with
    | nil => exact .nil
    | cons tag rest => exact .cons ⟨rfl, first⟩ (ih rest)

theorem completes_ofAxes {axes axes' : List Axis} (h : Forall₂ Axis.Fills axes axes') :
    Completes (ofAxes axes) (ofAxes axes') where
  layout := by
    induction h with
    | nil => rfl
    | cons first _ ih => exact congrArg₂ List.cons first.tag ih
  dimensions := List.forall₂_map_left_iff.mpr <| List.forall₂_map_right_iff.mpr <|
    h.imp fun _ _ => Axis.Fills.dimension

/-- Two values are axes, and the second is what the first may turn out to be. -/
inductive FillsAxis : Value → Value → Prop
  | intro {axis axis'} : Axis.Fills axis axis' → FillsAxis (.ofAxis axis) (.ofAxis axis')

theorem alike_ofPairs {items items' : List Value} (h : Forall₂ FillsAxis items items') :
    Alike Completes (ofPairs (.generated items)) (ofPairs (.generated items')) := by
  have split : ∃ axes axes' : List Axis, items = axes.map .ofAxis ∧ items' = axes'.map .ofAxis ∧
      Forall₂ Axis.Fills axes axes' := by
    induction h with
    | nil => exact ⟨[], [], rfl, rfl, .nil⟩
    | cons first _ ih =>
      obtain ⟨fills⟩ := first
      obtain ⟨axes, axes', rfl, rfl, rest⟩ := ih
      exact ⟨_ :: axes, _ :: axes', rfl, rfl, .cons fills rest⟩
  obtain ⟨axes, axes', rfl, rfl, fills⟩ := split
  have completes := completes_ofAxes fills
  have valid : (ofAxes axes).Valid := ⟨by simp [ofAxes], bounded_of_fills completes.dimensions⟩
  have made (axes : List Axis) :
      ofPairs (.generated (axes.map .ofAxis)) = (ofAxes axes).checked := ofPairs_axes rfl
  rw [made, made]
  exact alike_checked valid (completes.valid valid) completes

/-- A predicate sees the tags only, so it chooses the same axes of a completion. -/
theorem Completes.alike_filterAxes (valid : s.Valid) (h : Completes s s') (wanted : Predicate) :
    Alike Completes (s.filterAxes wanted) (s'.filterAxes wanted) := by
  have step (call : Nat) (axis axis' : Axis) (fills : Axis.Fills axis axis') :
      Alike (Option.Rel FillsAxis) (judge wanted call axis) (judge wanted call axis') := by
    rw [judge, judge, fills.tag]
    refine (alike_handOver axis axis' _).bind ?_
    rintro answer _ rfl
    refine (Alike.ofFault answer.truthy).bind ?_
    rintro judged _ rfl
    cases judged with
    | true => exact .pure (.some (.intro fills))
    | false => exact .pure .none
  rw [filterAxes_def, filterAxes_def]
  refine (alike_eachAxis valid (h.valid valid) h.axes step).bind fun kept kept' same => ?_
  exact alike_ofPairs (List.rel_filterMap (fun _ _ entry => entry) same)

/-! ## Together -/

/-- What a shape says holds of another one as well. -/
structure Foretells (s s' : Shape) : Prop where
  /-- A definite size over some axes is the size over them, and the second shape has one. -/
  size : ∀ axes : List Value, (∀ v ∈ axes, ∃ i, s.Names v i) → ∃ n n',
    s.sizeOver axes = pure n ∧ s'.sizeOver axes = pure n' ∧ (n ≠ -1 → n' = n) ∧ 0 ≤ n'
  unknownSize : s.size = -1 ↔ 0 < s.unknownCount
  leadingOnes : s.leadingOnes ≤ s'.leadingOnes
  trailingOnes : s.trailingOnes ≤ s'.trailingOnes
  isColumnVector : s.isColumnVector = .ok true → s'.isColumnVector = .ok true
  isRowVector : s.isRowVector = .ok true → s'.isRowVector = .ok true
  isVectorMatrix : s.isVectorMatrix = .ok true → s'.isVectorMatrix = .ok true
  isSquare : s.isSquare = .ok true → (∃ d ∈ s.dimensions, d ≠ -1) → s'.isSquare = .ok true
  /-- Derivations of both fail alike, or else complete each other again. -/
  slice : ∀ first past, Alike Completes (s.slice first past) (s'.slice first past)
  concatenate : ∀ {t t' : Shape}, t.Valid → Completes t t' →
    Alike Completes (s.concatenate (.shape t)) (s'.concatenate (.shape t'))
  filter : ∀ wanted, Alike Completes (s.filterAxes wanted) (s'.filterAxes wanted)

/-- **What a shape says while dimensions are unknown is true of every completion.** -/
theorem Completes.foretells (valid : s.Valid) (h : Completes s s') : Foretells s s' where
  size _ within := h.sizeOver within
  unknownSize := (gridSize_eq_unknownMark_iff valid.bounded).trans List.count_pos_iff.symm
  leadingOnes := onesAhead_le h.dimensions
  trailingOnes := onesAhead_le (List.forall₂_reverse_iff.mpr h.dimensions)
  isColumnVector vector := by rwa [h.eq_of_known (known_of_vector (.inl vector))]
  isRowVector vector := by rwa [h.eq_of_known (known_of_vector (.inr vector))]
  isVectorMatrix vector := by rwa [h.eq_of_known (known_of_vector (isVectorMatrix_elim vector))]
  isSquare square known := by rwa [h.eq_of_known (known_of_isSquare square known)]
  slice := h.alike_slice valid
  concatenate ht h' := h.alike_concatenate valid ht h'
  filter := h.alike_filterAxes valid

/-- Two unknown dimensions do not make a known size, and one of them turns out to be a one. -/
theorem Completes.foretells_filled :
    let s : Shape := ⟨[1, -1, -1], [.batch, .channel, .width]⟩
    let s' : Shape := ⟨[1, 1, 4], [.batch, .channel, .width]⟩
    s.Valid ∧ Completes s s' ∧ Foretells s s' ∧ s.size = -1 ∧ s.leadingOnes < s'.leadingOnes := by
  intro s s'
  have valid : s.Valid := by decide
  have completes : Completes s s' := by
    refine ⟨rfl, .cons (.known ?_) (.cons (.unknown ?_) (.cons (.unknown ?_) .nil))⟩ <;> decide
  exact ⟨valid, completes, completes.foretells valid, by decide, by decide⟩

end Shape
end TensorShape

import Mathlib.Data.List.TakeWhile
import TensorShape.Proofs.GridSizes
import TensorShape.Proofs.Segments

/-! # Ones at the ends

The ones that some dimensions begin with are a prefix of them, and the dimension after that
prefix, if there is one, is no one (`getElem?_onesAhead`).  Looked at from behind the same holds
of the ones that they end with.  So unless all dimensions are ones the two scans stop before they
meet (`onesAhead_add_lt`): what the first one stops at the second cannot have counted.

A shape without the ones at its ends is therefore a slice of it, which holds no other axes than
ones back.  Ones are no unknown dimensions and leave a size as it is, even that of no axes at all,
so nothing that can be counted is lost with them (`gridSize_middle`). -/
namespace TensorShape.Shape

variable {s : Shape} {ds front core back : List Int} {d : Int}

/-! ## Counting from one end -/

theorem take_onesAhead (ds : List Int) : ds.take (onesAhead ds) = ds.takeWhile (· = 1) :=
  (List.prefix_iff_eq_take.mp (List.takeWhile_prefix _)).symm

theorem onesAhead_le_length (ds : List Int) : onesAhead ds ≤ ds.length :=
  (List.takeWhile_prefix _).length_le

theorem eq_one_of_mem_take (held : d ∈ ds.take (onesAhead ds)) : d = 1 := by
  rw [take_onesAhead] at held
  simpa using List.mem_takeWhile_imp held

theorem getElem?_of_lt_onesAhead {i : Nat} (below : i < onesAhead ds) : ds[i]? = some 1 := by
  have within : i < ds.length := Nat.lt_of_lt_of_le below (onesAhead_le_length ds)
  have held : ds[i] ∈ ds.take (onesAhead ds) := List.mem_take_iff_getElem.mpr ⟨i, by omega, rfl⟩
  rw [List.getElem?_eq_getElem within, eq_one_of_mem_take held]

theorem onesAhead_eq_length_iff : onesAhead ds = ds.length ↔ ∀ d ∈ ds, d = 1 := by
  constructor
  · intro all d held
    have whole : ds.take (onesAhead ds) = ds := by rw [all, List.take_length]
    exact eq_one_of_mem_take (by rwa [whole])
  · intro ones
    have whole : ds.takeWhile (· = 1) = ds :=
      List.takeWhile_eq_self_iff.mpr fun d held => decide_eq_true (ones d held)
    rw [onesAhead, whole]

/-- The scan has stopped at a dimension that is no one. -/
theorem getElem?_onesAhead (stopped : ds[onesAhead ds]? = some d) : d ≠ 1 := by
  induction ds with
  | nil => cases stopped
  | cons e rest ih =>
    by_cases one : e = 1
    · rw [onesAhead, List.takeWhile_cons_of_pos (by simpa using one), List.length_cons,
        List.getElem?_cons_succ] at stopped
      exact ih stopped
    · rw [onesAhead, List.takeWhile_cons_of_neg (by simpa using one), List.length_nil,
        List.getElem?_cons_zero] at stopped
      obtain rfl := Option.some.inj stopped
      exact one

/-- A scan that has not gone through all dimensions has stopped at one of them. -/
theorem exists_getElem?_onesAhead (h : onesAhead ds ≠ ds.length) :
    ∃ d, ds[onesAhead ds]? = some d ∧ d ≠ 1 := by
  have below : onesAhead ds < ds.length := Nat.lt_of_le_of_ne (onesAhead_le_length ds) h
  exact ⟨_, List.getElem?_eq_getElem below, getElem?_onesAhead (List.getElem?_eq_getElem below)⟩

theorem onesAhead_eq_zero (first : ds.head? = some d) (other : d ≠ 1) : onesAhead ds = 0 := by
  obtain ⟨rest, rfl⟩ := List.head?_eq_some_iff.mp first
  rw [onesAhead, List.takeWhile_cons_of_neg (by simpa using other), List.length_nil]

/-! ## Counting from both ends -/

/-- A position counted from behind is one counted from the front. -/
theorem getElem?_reverse_of_add {i j : Nat} (place : i + j + 1 = ds.length) :
    ds.reverse[j]? = ds[i]? := by
  have same : ds.length - 1 - j = i := by omega
  rw [List.getElem?_reverse (by omega), same]

/-- The ones counted from behind are the last dimensions. -/
theorem eq_one_of_mem_drop (held : d ∈ ds.drop (ds.length - onesAhead ds.reverse)) : d = 1 := by
  rw [← List.mem_reverse, ← List.take_reverse] at held
  exact eq_one_of_mem_take held

theorem onesAhead_reverse_le_length (ds : List Int) : onesAhead ds.reverse ≤ ds.length :=
  Nat.le_trans (onesAhead_le_length _) (Nat.le_of_eq List.length_reverse)

theorem onesAhead_reverse_eq_length_iff :
    onesAhead ds.reverse = ds.length ↔ ∀ d ∈ ds, d = 1 := by
  rw [← List.length_reverse, onesAhead_eq_length_iff]
  simp only [List.mem_reverse]

/-- Unless all dimensions are ones, the scans from both ends do not meet. -/
theorem onesAhead_add_lt (other : ∃ d ∈ ds, d ≠ 1) :
    onesAhead ds + onesAhead ds.reverse < ds.length := by
  have notAll : onesAhead ds ≠ ds.length := by
    obtain ⟨e, held, ne⟩ := other
    exact fun all => ne (onesAhead_eq_length_iff.mp all e held)
  obtain ⟨d, stopped, ne⟩ := exists_getElem?_onesAhead notAll
  by_contra meet
  -- then the scan from behind has counted the dimension that the other one has stopped at
  have counted : (ds.drop (ds.length - onesAhead ds.reverse))[onesAhead ds
      - (ds.length - onesAhead ds.reverse)]? = some d := by
    rw [List.getElem?_drop, ← stopped]
    congr 1
    omega
  exact ne (eq_one_of_mem_drop (List.mem_of_getElem? counted))

/-- What lies between the ones at both ends neither begins nor ends with a one. -/
theorem onesAhead_between (other : ∃ d ∈ ds, d ≠ 1) :
    onesAhead ((ds.take (ds.length - onesAhead ds.reverse)).drop (onesAhead ds)) = 0 ∧
      onesAhead ((ds.take (ds.length - onesAhead ds.reverse)).drop (onesAhead ds)).reverse = 0 := by
  have apart := onesAhead_add_lt other
  obtain ⟨d, first, ne⟩ := @exists_getElem?_onesAhead ds (by omega)
  obtain ⟨e, last, ne'⟩ := @exists_getElem?_onesAhead ds.reverse
    (by rw [List.length_reverse]; omega)
  constructor
  · refine onesAhead_eq_zero ?_ ne
    rw [List.head?_drop, List.getElem?_take, if_pos (by omega), first]
  · refine onesAhead_eq_zero ?_ ne'
    rw [getElem?_reverse_of_add (i := ds.length - onesAhead ds.reverse - 1) (by omega)] at last
    rw [List.head?_reverse, List.getLast?_drop, List.length_take, if_neg (by omega),
      List.getLast?_take, if_neg (by omega), last, Option.some_or]

/-! ## What ones count for -/

theorem gridSize_of_ones (ones : ∀ d ∈ ds, d = 1) : gridSize ds = 1 :=
  (gridSize_eq_one_iff fun d held => by rw [ones d held]; decide).mpr ones

/-- Ones on either side make no difference to a size. -/
theorem gridSize_middle (bounded : ∀ d ∈ core, -1 ≤ d) (ahead : ∀ d ∈ front, d = 1)
    (behind : ∀ d ∈ back, d = 1) : gridSize (front ++ core ++ back) = gridSize core := by
  have atLeast {ones : List Int} (h : ∀ d ∈ ones, d = 1) : ∀ d ∈ ones, -1 ≤ d := by
    intro d held
    rw [h d held]
    decide
  have joined : ∀ d ∈ front ++ core, -1 ≤ d := fun d held =>
    (List.mem_append.mp held).elim (atLeast ahead d) (bounded d)
  rw [gridSize_append joined (atLeast behind), gridSize_append (atLeast ahead) bounded,
    gridSize_of_ones ahead, gridSize_of_ones behind, timesSize_one, one_timesSize]

theorem count_of_ones (ones : ∀ d ∈ ds, d = 1) : ds.count Extent.unknownMark = 0 :=
  List.count_eq_zero_of_not_mem fun held => absurd (ones _ held) (by decide)

/-! ## Together -/

/-- Three slices of a shape: the ones that it begins with, what lies between, and the ones that it
ends with. -/
structure Squeezed (s front core back : Shape) : Prop where
  first : s.slice (.int 0) (.int s.leadingOnes) = pure front
  between : s.slice (.int s.leadingOnes) (.int (s.rank - s.trailingOnes)) = pure core
  last : s.slice (.int (s.rank - s.trailingOnes)) .absent = pure back
  /-- What lies between has no ones at its ends, -/
  bare : core.leadingOnes = 0 ∧ core.trailingOnes = 0
  /-- but all that counts. -/
  size : core.size = s.size
  unknownCount : core.unknownCount = s.unknownCount
  ones : (∀ d ∈ front.dimensions, d = 1) ∧ ∀ d ∈ back.dimensions, d = 1
  /-- Together the slices are the shape, tags and all. -/
  rejoined : (do (← front.concatenate (.shape core)).concatenate (.shape back)) = pure s

/-- What there is to know about the ones at the ends of a shape. -/
structure OuterOnes (s : Shape) : Prop where
  allLeading : s.leadingOnes = s.rank ↔ ∀ d ∈ s.dimensions, d = 1
  allTrailing : s.trailingOnes = s.rank ↔ ∀ d ∈ s.dimensions, d = 1
  /-- The ones counted from the front are there, and are followed by no other. -/
  leading : (∀ i < s.leadingOnes, s.dimensions[i]? = some 1) ∧
    (s.leadingOnes = s.rank ∨ ∃ d, s.dimensions[s.leadingOnes]? = some d ∧ d ≠ 1)
  /-- So are those counted from the back. -/
  trailing : (∀ i j, i + j + 1 = s.rank → j < s.trailingOnes → s.dimensions[i]? = some 1) ∧
    (s.trailingOnes = s.rank ∨
      ∃ i d, i + s.trailingOnes + 1 = s.rank ∧ s.dimensions[i]? = some d ∧ d ≠ 1)
  squeezed : (∃ d ∈ s.dimensions, d ≠ 1) → s.leadingOnes + s.trailingOnes < s.rank ∧
    ∃ front core back, Squeezed s front core back
  /-- Of ones alone nothing is left to lie between: the scans have passed each other. -/
  refused : (∀ d ∈ s.dimensions, d = 1) → 0 < s.rank →
    s.slice (.int s.leadingOnes) (.int (s.rank - s.trailingOnes))
        = Eval.reject (.invalidSlice s.rank 0 s.rank) ∧
      (Cause.invalidSlice s.rank 0 s.rank).diagnostic.kind = .indexOutOfRange

theorem Valid.squeezed (valid : s.Valid) (other : ∃ d ∈ s.dimensions, d ≠ 1) :
    Squeezed s (s.segment 0 s.leadingOnes) (s.segment s.leadingOnes (s.rank - s.trailingOnes))
      (s.segment (s.rank - s.trailingOnes) s.rank) := by
  have apart : s.leadingOnes + s.trailingOnes < s.rank := onesAhead_add_lt other
  have past : ((s.rank : Int) - s.trailingOnes).toNat = s.rank - s.trailingOnes := by omega
  have ahead : ∀ d ∈ (s.segment 0 s.leadingOnes).dimensions, d = 1 := fun _ => eq_one_of_mem_take
  have behind : ∀ d ∈ (s.segment (s.rank - s.trailingOnes) s.rank).dimensions, d = 1 := by
    intro d held
    rw [dimensions_segment, ← dimensions_length, List.take_length] at held
    exact eq_one_of_mem_drop held
  have whole : s.segment 0 s.leadingOnes ++ s.segment s.leadingOnes (s.rank - s.trailingOnes)
      ++ s.segment (s.rank - s.trailingOnes) s.rank = s := by
    rw [segment_append_segment s (Nat.zero_le _) (by omega),
      segment_append_segment s (Nat.zero_le _) (Nat.sub_le _ _), segment_rank valid]
  have dimensions := congrArg Shape.dimensions whole
  rw [dimensions_append, dimensions_append] at dimensions
  refine ⟨?_, ?_, ?_, onesAhead_between other, ?_, ?_, ⟨ahead, behind⟩, ?_⟩
  · rw [slice_int valid (by omega) (by omega) (by omega), Int.toNat_zero, Int.toNat_natCast]
  · rw [slice_int valid (by omega) (by omega) (by omega), past, Int.toNat_natCast]
  · rw [slice_absent valid (by omega) (by omega), past]
  · have size := gridSize_middle (valid.segment s.leadingOnes (s.rank - s.trailingOnes)).bounded
      ahead behind
    rw [dimensions] at size
    exact size.symm
  · have count := congrArg (List.count Extent.unknownMark) dimensions
    rw [List.count_append, List.count_append, count_of_ones ahead, count_of_ones behind,
      Nat.zero_add, Nat.add_zero] at count
    exact count
  · rw [concatenate_eq (valid.segment _ _) (valid.segment _ _), pure_bind,
      concatenate_eq ((valid.segment _ _).append (valid.segment _ _)) (valid.segment _ _), whole]

/-- **The ones at the ends of a shape can be cut off**, unless there is nothing else. -/
theorem Valid.outerOnes (valid : s.Valid) : OuterOnes s where
  allLeading := onesAhead_eq_length_iff
  allTrailing := onesAhead_reverse_eq_length_iff
  leading := by
    refine ⟨fun i below => getElem?_of_lt_onesAhead below, ?_⟩
    by_cases all : s.leadingOnes = s.rank
    · exact .inl all
    · exact .inr (exists_getElem?_onesAhead all)
  trailing := by
    refine ⟨fun i j place below => ?_, ?_⟩
    · rw [← getElem?_reverse_of_add place]
      exact getElem?_of_lt_onesAhead below
    · by_cases all : s.trailingOnes = s.rank
      · exact .inl all
      · have counted : s.trailingOnes ≤ s.rank := onesAhead_reverse_le_length s.dimensions
        obtain ⟨d, stopped, ne⟩ := @exists_getElem?_onesAhead s.dimensions.reverse
          (by rwa [List.length_reverse])
        have place : s.rank - s.trailingOnes - 1 + s.trailingOnes + 1 = s.rank := by omega
        exact .inr ⟨_, d, place, (getElem?_reverse_of_add place).symm.trans stopped, ne⟩
  squeezed other := ⟨onesAhead_add_lt other, _, _, _, valid.squeezed other⟩
  refused ones some := by
    have leading : s.leadingOnes = s.rank := onesAhead_eq_length_iff.mpr ones
    have trailing : s.trailingOnes = s.rank := onesAhead_reverse_eq_length_iff.mpr ones
    -- both bounds are numbers of axes, so the refusal can show them
    have shown : s.longBounds s.rank 0 = [] := s.longBounds_of_counts
      ⟨Int.natCast_nonneg _, Int.le_refl _⟩ ⟨Int.le_refl _, Int.natCast_nonneg _⟩
    have outside : ¬ (0 ≤ (s.rank : Int) ∧ (s.rank : Int) ≤ 0 ∧ (0 : Int) ≤ s.rank) := by omega
    have refused : s.slice (.int s.rank) (.int 0) = _ := slice_outside s rfl rfl outside
    rw [leading, trailing, Int.sub_self, refused, shown]
    exact ⟨rfl, rfl⟩

/-- A one between others stays, and so does an unknown dimension; of a single one nothing does. -/
theorem Valid.outerOnes_between :
    let s : Shape := ⟨[1, 1, -1, 1, 3, 1], [.batch, .unknown, .height, .width, .width, .time]⟩
    let t : Shape := ⟨[1], [.batch]⟩
    s.Valid ∧ (∃ front core back, Squeezed s front core back ∧ core.dimensions = [-1, 1, 3]) ∧
      t.Valid ∧ t.slice (.int 1) (.int 0) = Eval.reject (.invalidSlice 1 0 1) := by
  intro s t
  have hs : s.Valid := by decide
  have ht : t.Valid := by decide
  obtain ⟨-, front, core, back, squeezed⟩ := hs.outerOnes.squeezed ⟨-1, by decide, by decide⟩
  have cut : core = ⟨[-1, 1, 3], [.height, .width, .width]⟩ :=
    Eval.pure_inj.mp
      (squeezed.between.symm.trans (slice_int hs (by decide) (by decide) (by decide)))
  have refused := (ht.outerOnes.refused (by decide) (by decide)).1
  exact ⟨hs, ⟨front, core, back, squeezed, by rw [cut]⟩, ht, refused⟩

end TensorShape.Shape

import TensorShape.Proofs.OuterOnes

/-! # Measures of a join

What a join of two shapes answers follows from what the two answer.  Counts add up and sizes
multiply; a scan for ones goes on into the second shape only if it has come through the whole of
the first (`onesAhead_append`), and an end is looked for there only if the first shape has none.
The shapes without axes are no exception: nothing is added to a count, a size is multiplied by one,
and a scan comes through at once.

Counting from behind is counting from the front in the shape whose axes stand the other way round,
and that shape can be made of the pairs of the first (`Valid.mirrored`). -/
namespace TensorShape.Shape

variable {s t : Shape}

/-- A scan that has come through the first dimensions goes on with the others. -/
theorem onesAhead_append (ds ds' : List Int) : onesAhead (ds ++ ds')
    = if onesAhead ds < ds.length then onesAhead ds else ds.length + onesAhead ds' := by
  have within := onesAhead_le_length ds
  unfold onesAhead at within ⊢
  rw [List.takeWhile_append]
  split <;> split
  · omega
  · rw [List.length_append]
  · rfl
  · omega

theorem unknownCount_append (s t : Shape) :
    (s ++ t).unknownCount = s.unknownCount + t.unknownCount := List.count_append

theorem size_append (hs : s.Valid) (ht : t.Valid) : (s ++ t).size = timesSize s.size t.size :=
  gridSize_append hs.bounded ht.bounded

theorem leadingOnes_append (s t : Shape) : (s ++ t).leadingOnes
    = if s.leadingOnes < s.rank then s.leadingOnes else s.rank + t.leadingOnes :=
  onesAhead_append s.dimensions t.dimensions

theorem trailingOnes_append (s t : Shape) : (s ++ t).trailingOnes
    = if t.trailingOnes < t.rank then t.trailingOnes else t.rank + s.trailingOnes := by
  have scanned := onesAhead_append t.dimensions.reverse s.dimensions.reverse
  rwa [← List.reverse_append, List.length_reverse] at scanned

theorem layoutSpelling_append (s t : Shape) :
    (s ++ t).layoutSpelling = s.layoutSpelling ++ t.layoutSpelling := by
  simp only [layoutSpelling, Layout.encode, Layout.letters, layout_append, List.map_append,
    String.ofList_append]

theorem isLayoutKnown_append (s t : Shape) :
    (s ++ t).isLayoutKnown = (s.isLayoutKnown && t.isLayoutKnown) := by
  simp [isLayoutKnown, Layout.isKnown]

/-! ## Ends -/

theorem isScalar_iff : s.isScalar ↔ s.dimensions = [] := by
  rw [isScalar, decide_eq_true_iff, rank, List.length_eq_zero_iff]

theorem head_append (s t : Shape) : (s ++ t).head = if s.isScalar then t.head else s.head := by
  obtain ⟨ds, ts⟩ := s
  cases ds <;> rfl

theorem tail_append (s t : Shape) : (s ++ t).tail = if t.isScalar then s.tail else t.tail := by
  by_cases none : t.isScalar
  · rw [if_pos none, tail, tail, dimensions_append, isScalar_iff.mp none, List.append_nil]
  · have some : t.dimensions ≠ [] := mt isScalar_iff.mpr none
    rw [if_neg none, tail, tail, dimensions_append, List.getLast?_append_of_ne_nil _ some]

/-- Only a shape without axes has no first one, -/
theorem head_error_iff : (∃ cause, s.head = .error cause) ↔ s.isScalar := by
  rw [isScalar_iff, head]
  cases s.dimensions with
  | nil => exact iff_of_true ⟨_, rfl⟩ rfl
  | cons d rest =>
    refine iff_of_false ?_ (List.cons_ne_nil d rest)
    rintro ⟨cause, ⟨⟩⟩

/-- and no last one. -/
theorem tail_error_iff : (∃ cause, s.tail = .error cause) ↔ s.isScalar := by
  rw [isScalar_iff, tail, ← List.getLast?_eq_none_iff]
  cases s.dimensions.getLast? with
  | none => exact iff_of_true ⟨_, rfl⟩ rfl
  | some d =>
    refine iff_of_false ?_ (Option.some_ne_none d)
    rintro ⟨cause, ⟨⟩⟩

theorem isScalar_append (s t : Shape) : (s ++ t).isScalar ↔ s.isScalar ∧ t.isScalar := by
  rw [isScalar_iff, isScalar_iff, isScalar_iff, dimensions_append, List.append_eq_nil_iff]

/-! ## Seen from behind -/

/-- The pairs of a shape in reverse make the shape whose axes stand the other way round. -/
theorem Valid.mirrored (valid : s.Valid) :
    (do ofPairs (.list (← Eval.items (.pairsOf s)).reverse))
      = pure (⟨s.dimensions.reverse, s.layout.reverse⟩ : Shape) := by
  have axes : ofAxes s.axes.reverse = ⟨s.dimensions.reverse, s.layout.reverse⟩ := by
    have whole := ofAxes_axes valid
    have sizes : s.axes.map Axis.dimension = s.dimensions := congrArg dimensions whole
    have tags : s.axes.map Axis.tag = s.layout := congrArg layout whole
    rw [ofAxes, List.map_reverse, List.map_reverse, sizes, tags]
  have bounded : (ofAxes s.axes.reverse).Valid := valid_ofAxes_iff.mpr fun axis held =>
    valid.bounded_axes axis (List.mem_reverse.mp held)
  rw [Eval.items_of_pass (pass?_pairsOf valid), pure_bind, ← List.map_reverse,
    ofPairs_of_pass bounded rfl, axes]

/-! ## Together -/

/-- What the join of two shapes answers, given what the shapes answer. -/
structure JoinMeasures (s t : Shape) : Prop where
  made : s.concatenate (.shape t) = pure (s ++ t)
  rank : (s ++ t).rank = s.rank + t.rank
  unknownCount : (s ++ t).unknownCount = s.unknownCount + t.unknownCount
  size : (s ++ t).size = if s.size = -1 ∨ t.size = -1 then -1 else s.size * t.size
  leadingOnes : (s ++ t).leadingOnes
    = if s.leadingOnes < s.rank then s.leadingOnes else s.rank + t.leadingOnes
  trailingOnes : (s ++ t).trailingOnes
    = if t.trailingOnes < t.rank then t.trailingOnes else t.rank + s.trailingOnes
  layoutSpelling : (s ++ t).layoutSpelling = s.layoutSpelling ++ t.layoutSpelling
  isLayoutKnown : (s ++ t).isLayoutKnown = (s.isLayoutKnown && t.isLayoutKnown)
  head : (s ++ t).head = if s.isScalar then t.head else s.head
  tail : (s ++ t).tail = if t.isScalar then s.tail else t.tail
  /-- A join has no ends just if neither shape has any. -/
  noHead : (∃ cause, (s ++ t).head = .error cause) ↔ s.isScalar ∧ t.isScalar
  noTail : (∃ cause, (s ++ t).tail = .error cause) ↔ s.isScalar ∧ t.isScalar
  /-- The ones that a shape ends with are those that its pairs begin with in reverse. -/
  mirrored : ∃ u, (do ofPairs (.list (← Eval.items (.pairsOf s)).reverse)) = pure u ∧
    s.trailingOnes = u.leadingOnes ∧ s.leadingOnes = u.trailingOnes

/-- **The measures of a join are those of its parts, put together.** -/
theorem Valid.joinMeasures (hs : s.Valid) (ht : t.Valid) : JoinMeasures s t where
  made := concatenate_eq hs ht
  rank := rank_append s t
  unknownCount := unknownCount_append s t
  size := size_append hs ht
  leadingOnes := leadingOnes_append s t
  trailingOnes := trailingOnes_append s t
  layoutSpelling := layoutSpelling_append s t
  isLayoutKnown := isLayoutKnown_append s t
  head := head_append s t
  tail := tail_append s t
  noHead := head_error_iff.trans (isScalar_append s t)
  noTail := tail_error_iff.trans (isScalar_append s t)
  mirrored := by
    refine ⟨_, hs.mirrored, rfl, ?_⟩
    rw [trailingOnes, List.reverse_reverse, leadingOnes]

/-- Ones that go on across the joint, and a size that is unknown beside a zero. -/
theorem Valid.joinMeasures_across :
    let s : Shape := ⟨[1, 1], [.batch, .channel]⟩
    let t : Shape := ⟨[1, 0, -1], [.unknown, .height, .width]⟩
    s.Valid ∧ t.Valid ∧ JoinMeasures s t ∧ JoinMeasures ⟨[], []⟩ t ∧ (s ++ t).leadingOnes = 3 ∧
      (s ++ t).size = -1 := by
  intro s t
  have hs : s.Valid := by decide
  have ht : t.Valid := by decide
  have joined := hs.joinMeasures ht
  exact ⟨hs, ht, joined, valid_scalar.joinMeasures ht, joined.leadingOnes, joined.size⟩

end TensorShape.Shape

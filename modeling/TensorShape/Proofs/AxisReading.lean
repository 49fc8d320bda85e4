import TensorShape.Proofs.JoinMeasures
import TensorShape.Proofs.Refusals
import TensorShape.Proofs.Segments

/-! # Reading one axis

The dimension of an axis can be had by its position, as a size over it alone, in going through the
shape or its pairs, and as an end or the size of a slice.  All of these come to the entry of the
list of dimensions at that position (`ReadAs`), because a slice has the entries that lie between
its bounds (`getElem?_segment`).

None of them takes a position that is not there.  A value is the position of an axis just if it
compares with integers and is one from zero up to the rank, and any other fails alike by position
and as a size: it is refused, or it is a fault that it does not compare. -/
namespace TensorShape.Shape

open List (Forall₂)

variable {s : Shape} {v : Value} {i : Nat} {d : Int}

/-! ## Where a slice has its dimensions from -/

theorem getElem?_segment (s : Shape) {b e k : Nat} (within : k < e - b) :
    (s.segment b e).dimensions[k]? = s.dimensions[b + k]? := by
  rw [dimensions_segment, List.getElem?_drop, List.getElem?_take_of_lt (by omega)]

theorem head_of_getElem? (h : s.dimensions[0]? = some d) : s.head = .ok d := by
  rw [head, List.head?_eq_getElem?, h]

theorem tail_of_getElem? (h : s.dimensions[s.rank - 1]? = some d) : s.tail = .ok d := by
  rw [tail, List.getLast?_eq_getElem?, dimensions_length, h]

theorem lt_rank_of_getElem? (h : s.dimensions[i]? = some d) : i < s.rank :=
  (List.getElem?_eq_some_iff.mp h).1

/-! ## Reading by position -/

theorem get_of_getElem? (h : s.dimensions[i]? = some d) (compares : v.isComparable = true)
    (integer : v.integer? = some (i : Int)) : s.get v = pure d := by
  obtain ⟨within, found⟩ := List.getElem?_eq_some_iff.mp h
  rw [get_of_within compares integer within]
  exact congrArg pure found

theorem sizeOver_of_getElem? (h : s.dimensions[i]? = some d) (compares : v.isComparable = true)
    (integer : v.integer? = some (i : Int)) : s.sizeOver [v] = pure d := by
  obtain ⟨within, found⟩ := List.getElem?_eq_some_iff.mp h
  have named : Forall₂ s.Names [v] [⟨i, within⟩] := .cons ⟨compares, integer⟩ .nil
  rw [sizeOver_of_names (List.cons_ne_nil _ _) named]
  have alone : [(⟨i, within⟩ : Fin s.rank)].map s.dimensionAt = [d] := congrArg ([·]) found
  rw [alone, gridSize_singleton]

/-! ## Reading in other ways -/

/-- Every way to read the axis at a position gives one dimension. -/
structure ReadAs (s : Shape) (i : Nat) (d : Int) : Prop where
  get : ∀ v : Value, v.isComparable = true → v.integer? = some (i : Int) → s.get v = pure d
  size : ∀ v : Value, v.isComparable = true → v.integer? = some (i : Int) →
    s.sizeOver [v] = pure d
  item : ∃ items, Eval.items (.shape s) = pure items ∧ items[i]? = some (.int d)
  pair : ∃ pairs tag, Eval.items (.pairsOf s) = pure pairs ∧
    pairs[i]? = some (.axisPair (.int d) (.tag tag))
  headOfRest : (do return (← s.slice (.int i) .absent).head) = pure (.ok d)
  tailOfFirst : (do return (← s.slice (.int 0) (.int (i + 1))).tail) = pure (.ok d)
  sizeOfOne : (do (← s.slice (.int i) (.int (i + 1))).sizeOver []) = pure d

theorem slice_nat (valid : s.Valid) {b e : Nat} (order : b ≤ e) (past : e ≤ s.rank) :
    s.slice (.int b) (.int e) = pure (s.segment b e) :=
  slice_int valid (Int.natCast_nonneg b) (Int.ofNat_le.mpr order) (Int.ofNat_le.mpr past)

theorem items_shape_getElem? (h : s.dimensions[i]? = some d) :
    ∃ items, Eval.items (.shape s) = pure items ∧ items[i]? = some (.int d) := by
  refine ⟨s.dimensions.map .int, Eval.items_of_pass rfl, ?_⟩
  rw [List.getElem?_map, h]
  rfl

/-- The dimensions and the tags are in step, so there is a tag for each dimension. -/
theorem items_pairsOf_getElem? (valid : s.Valid) (h : s.dimensions[i]? = some d) :
    ∃ pairs tag, Eval.items (.pairsOf s) = pure pairs ∧
      pairs[i]? = some (.axisPair (.int d) (.tag tag)) := by
  rw [← valid.map_dimension_axes, List.getElem?_map, Option.map_eq_some_iff] at h
  obtain ⟨axis, there, rfl⟩ := h
  refine ⟨s.axes.map .ofAxis, axis.tag, Eval.items_of_pass (pass?_pairsOf valid), ?_⟩
  rw [List.getElem?_map, there]
  rfl

theorem Valid.readAs (valid : s.Valid) (h : s.dimensions[i]? = some d) : ReadAs s i d where
  get _ := get_of_getElem? h
  size _ := sizeOver_of_getElem? h
  item := items_shape_getElem? h
  pair := items_pairsOf_getElem? valid h
  headOfRest := by
    have within := lt_rank_of_getElem? h
    have first : (s.segment i s.rank).dimensions[0]? = some d := by
      rw [getElem?_segment s (by omega), Nat.add_zero, h]
    rw [slice_absent valid (by omega) (by omega), pure_bind, Int.toNat_natCast,
      head_of_getElem? first]
  tailOfFirst := by
    have within := lt_rank_of_getElem? h
    have last : (s.segment 0 (i + 1)).dimensions[(s.segment 0 (i + 1)).rank - 1]? = some d := by
      rw [rank_segment s (by omega), getElem?_segment s (by omega)]
      simpa using h
    have cut : s.slice (.int 0) (.int (i + 1)) = pure (s.segment 0 (i + 1)) :=
      slice_nat valid (Nat.zero_le _) within
    rw [cut, pure_bind, tail_of_getElem? last]
  sizeOfOne := by
    have within := lt_rank_of_getElem? h
    have cut : s.slice (.int i) (.int (i + 1)) = pure (s.segment i (i + 1)) :=
      slice_nat valid (Nat.le_succ i) within
    have alone : (s.segment i (i + 1)).dimensions = [d] := by
      apply List.ext_getElem?
      rintro (_ | k)
      · rw [getElem?_segment s (by omega), Nat.add_zero, h]
        rfl
      · have rank := rank_segment s (a := i) (b := i + 1) within
        rw [List.getElem?_eq_none (by rw [dimensions_length, rank]; omega)]
        rfl
    rw [cut, pure_bind, sizeOver, size, alone, gridSize_singleton]

/-- A position in a slice counts from where that begins. -/
theorem slice_get (valid : s.Valid) {b e k : Nat} (past : e ≤ s.rank) (within : k < e - b) :
    (do (← s.slice (.int b) (.int e)).get (.int k)) = s.get (.int (b + k : Nat)) := by
  obtain ⟨d, there⟩ : ∃ d, s.dimensions[b + k]? = some d :=
    ⟨_, List.getElem?_eq_getElem (by rw [dimensions_length]; omega)⟩
  rw [slice_nat valid (by omega) past, pure_bind, get_of_getElem? there rfl rfl]
  exact get_of_getElem? ((getElem?_segment s within).trans there) rfl rfl

/-! ## Positions that are not there -/

/-- A value that is the position of no axis is refused alike in both ways, if it can be written. -/
theorem refused_alike (missed : s.Misses v) {run : Run} {shown form : String}
    {between after : List Source} (first : v.write run.cursors = (.ok shown, between))
    (second : v.write between = (.ok form, after)) :
    s.get v run = (.error (.rejected (.axisOutOfRange .get shown form s.rank)),
        { run with cursors := after }) ∧
      s.sizeOver [v] run = (.error (.rejected (.axisOutOfRange .size shown form s.rank)),
        { run with cursors := after }) :=
  ⟨bind_of_error (locate_of_misses .get missed first second) _,
    sizeOver_of_misses .nil missed first second⟩

/-- A value whose parts can be printed is refused in the same words each time, and no cursor is
moved. -/
theorem refused_everywhere (missed : s.Misses v) (still : v.partsAll Value.isStill = true)
    (printable : v.partsAll Value.isPrintable = true) : ∃ form, ∀ run : Run,
    s.get v run = (.error (.rejected (.axisOutOfRange .get form form s.rank)), run) ∧
      s.sizeOver [v] run = (.error (.rejected (.axisOutOfRange .size form form s.rank)), run) := by
  obtain ⟨form, written⟩ := Value.exists_write_eq_pure still printable
  exact ⟨form, fun run => refused_alike missed (congrFun written _) (congrFun written _)⟩

/-- What does not compare with integers is a fault in both ways, whichever integer it stands for. -/
theorem fault_alike (silent : v.isComparable = false) :
    s.get v = throw (.fault (.notComparable v.typeName)) ∧
      s.sizeOver [v] = throw (.fault (.notComparable v.typeName)) :=
  ⟨get_of_not_comparable silent, sizeOver_of_not_comparable .nil silent []⟩

/-- A value is or stands for the position of an axis, and can be asked whether it does. -/
structure IsAxis (s : Shape) (v : Value) : Prop where
  compares : v.isComparable = true
  within : ∃ n, v.integer? = some n ∧ 0 ≤ n ∧ n < s.rank

theorem misses_of_not_isAxis (compares : v.isComparable = true) (missed : ¬ s.IsAxis v) :
    s.Misses v :=
  ⟨compares, fun n integer within => missed ⟨compares, n, integer, within⟩⟩

theorem exists_getElem?_of_isAxis (h : s.IsAxis v) :
    ∃ (i : Nat) (d : Int), s.dimensions[i]? = some d ∧ v.integer? = some (i : Int) := by
  obtain ⟨n, integer, nonneg, below⟩ := h.within
  have natural : (n.toNat : Int) = n := Int.toNat_of_nonneg nonneg
  have within : n.toNat < s.dimensions.length := by rw [dimensions_length]; omega
  exact ⟨n.toNat, _, List.getElem?_eq_getElem within, by rw [integer, natural]⟩

/-- What reads an axis by its position and fails without one succeeds for axes. -/
theorem ok_iff_isAxis {work : Eval Int} {run : Run}
    (reads : ∀ {i : Nat} {d : Int}, s.dimensions[i]? = some d → v.isComparable = true →
      v.integer? = some (i : Int) → work = pure d)
    (fails : s.Misses v → ∃ failure, (work run).1 = .error failure)
    (stops : v.isComparable = false → work = throw (.fault (.notComparable v.typeName))) :
    (∃ d after, work run = (.ok d, after)) ↔ s.IsAxis v := by
  constructor
  · rintro ⟨d, after, found⟩
    by_contra missed
    match compares : v.isComparable with
    | true =>
      obtain ⟨failure, failed⟩ := fails (misses_of_not_isAxis compares missed)
      rw [found] at failed
      cases failed
    | false =>
      rw [stops compares] at found
      cases found
  · intro axis
    obtain ⟨i, d, there, integer⟩ := exists_getElem?_of_isAxis axis
    exact ⟨d, run, by rw [reads there axis.compares integer]; rfl⟩

theorem get_ok_iff {run : Run} : (∃ d after, s.get v run = (.ok d, after)) ↔ s.IsAxis v :=
  ok_iff_isAxis get_of_getElem? (fun missed => (reported_get missed run).failed)
    fun silent => (fault_alike silent).1

theorem sizeOver_ok_iff {run : Run} :
    (∃ d after, s.sizeOver [v] run = (.ok d, after)) ↔ s.IsAxis v :=
  ok_iff_isAxis sizeOver_of_getElem? (fun missed => (reported_sizeOver .nil missed [] run).failed)
    fun silent => (fault_alike silent).2

/-! ## Ends -/

theorem head_eq_get (h : 0 < s.rank) : ∃ d, s.head = .ok d ∧ s.get (.int 0) = pure d := by
  have there := List.getElem?_eq_getElem (l := s.dimensions) h
  exact ⟨_, head_of_getElem? there, get_of_getElem? there rfl rfl⟩

theorem tail_eq_get (h : 0 < s.rank) :
    ∃ d, s.tail = .ok d ∧ s.get (.int (s.rank - 1)) = pure d := by
  have within : s.rank - 1 < s.dimensions.length := by rw [dimensions_length]; omega
  have there := List.getElem?_eq_getElem within
  have integer : (Value.int (s.rank - 1)).integer? = some ((s.rank - 1 : Nat) : Int) :=
    congrArg some (by omega)
  exact ⟨_, tail_of_getElem? there, get_of_getElem? there rfl integer⟩

/-- Only a shape without axes has no ends. -/
theorem ends_error_iff : (s.head = .error (.noAxisAt .head) ↔ s.rank = 0) ∧
    (s.tail = .error (.noAxisAt .tail) ↔ s.rank = 0) := by
  rcases Nat.eq_zero_or_pos s.rank with none | some
  · have empty : s.dimensions = [] := List.length_eq_zero_iff.mp none
    rw [head, tail, empty]
    exact ⟨iff_of_true rfl none, iff_of_true rfl none⟩
  · obtain ⟨d, first, -⟩ := head_eq_get some
    obtain ⟨d', last, -⟩ := tail_eq_get some
    rw [first, last]
    exact ⟨iff_of_false (by simp) (by omega), iff_of_false (by simp) (by omega)⟩

/-! ## Together -/

/-- How the axes of a shape are read. -/
structure AxisReading (s : Shape) : Prop where
  get_ok : ∀ (v : Value) (run : Run), (∃ d after, s.get v run = (.ok d, after)) ↔ s.IsAxis v
  size_ok : ∀ (v : Value) (run : Run),
    (∃ d after, s.sizeOver [v] run = (.ok d, after)) ↔ s.IsAxis v
  /-- What is no axis is refused alike, if it can be written, -/
  refused : ∀ {v : Value} {run : Run} {shown form : String} {between after : List Source},
    v.isComparable = true → ¬ s.IsAxis v → v.write run.cursors = (.ok shown, between) →
    v.write between = (.ok form, after) →
    s.get v run = (.error (.rejected (.axisOutOfRange .get shown form s.rank)),
        { run with cursors := after }) ∧
      s.sizeOver [v] run = (.error (.rejected (.axisOutOfRange .size shown form s.rank)),
        { run with cursors := after })
  /-- and each time, unless a live view is written with it. -/
  everywhere : ∀ {v : Value}, v.isComparable = true → ¬ s.IsAxis v →
    v.partsAll Value.isStill = true → v.partsAll Value.isPrintable = true →
    ∃ form, ∀ run : Run,
    s.get v run = (.error (.rejected (.axisOutOfRange .get form form s.rank)), run) ∧
      s.sizeOver [v] run = (.error (.rejected (.axisOutOfRange .size form form s.rank)), run)
  /-- What does not compare with integers is a fault in both ways, whichever integer it stands
  for. -/
  incomparable : ∀ {v : Value}, v.isComparable = false →
    s.get v = throw (.fault (.notComparable v.typeName)) ∧
      s.sizeOver [v] = throw (.fault (.notComparable v.typeName))
  alike : ∀ shown form,
    (Cause.axisOutOfRange .get shown form s.rank).diagnostic.kind = .indexOutOfRange ∧
    (Cause.axisOutOfRange .size shown form s.rank).diagnostic.kind = .indexOutOfRange ∧
    (Cause.axisOutOfRange .get shown form s.rank).message
      = (Cause.axisOutOfRange .size shown form s.rank).message ∧
    (Cause.axisOutOfRange .get shown form s.rank).data
      = (Cause.axisOutOfRange .size shown form s.rank).data
  reads : ∀ i : Fin s.rank, ReadAs s i (s.dimensionAt i)
  sliced : ∀ {b e k : Nat}, b ≤ e → e ≤ s.rank → k < e - b →
    (do (← s.slice (.int b) (.int e)).get (.int k)) = s.get (.int (b + k : Nat))
  first : 0 < s.rank → ∃ d, s.head = .ok d ∧ s.get (.int 0) = pure d
  last : 0 < s.rank → ∃ d, s.tail = .ok d ∧ s.get (.int (s.rank - 1)) = pure d
  noEnds : (s.head = .error (.noAxisAt .head) ↔ s.rank = 0) ∧
    (s.tail = .error (.noAxisAt .tail) ↔ s.rank = 0) ∧
    ∀ which, (Cause.noAxisAt which).diagnostic.kind = .indexOutOfRange

/-- **All ways to read an axis agree**, and none of them counts from the back. -/
theorem Valid.axisReading (valid : s.Valid) : AxisReading s where
  get_ok _ _ := get_ok_iff
  size_ok _ _ := sizeOver_ok_iff
  refused compares missed := refused_alike (misses_of_not_isAxis compares missed)
  everywhere compares missed := refused_everywhere (misses_of_not_isAxis compares missed)
  incomparable := fault_alike
  alike _ _ := ⟨rfl, rfl, rfl, rfl⟩
  reads i := valid.readAs (List.getElem?_eq_getElem i.isLt)
  sliced _ past within := slice_get valid past within
  first := head_eq_get
  last := tail_eq_get
  noEnds := ⟨ends_error_iff.1, ends_error_iff.2, fun _ => rfl⟩

/-- An unknown dimension is read like any other, there is no last axis by the name of minus one, and
what stands for the first axis without comparing with integers is a fault. -/
theorem Valid.axisReading_unknown :
    let s : Shape := ⟨[2, -1, 3], [.batch, .height, .width]⟩
    s.Valid ∧ ReadAs s 1 (-1) ∧ ¬ s.IsAxis (.int (-1)) ∧ (∃ form, ∀ run : Run,
      s.get (.int (-1)) run = (.error (.rejected (.axisOutOfRange .get form form 3)), run) ∧
      s.sizeOver [.int (-1)] run
        = (.error (.rejected (.axisOutOfRange .size form form 3)), run)) ∧
      s.get (.index ⟨"Index", "Index(0)"⟩ false 0) = throw (.fault (.notComparable "Index")) := by
  intro s
  have valid : s.Valid := by decide
  have reading := valid.axisReading
  have missed : ¬ s.IsAxis (.int (-1)) := by
    rintro ⟨-, n, integer, nonneg, -⟩
    obtain rfl : -1 = n := Option.some.inj integer
    omega
  exact ⟨valid, reading.reads ⟨1, by decide⟩, missed, reading.everywhere rfl missed rfl rfl,
    (reading.incomparable rfl).1⟩

end TensorShape.Shape

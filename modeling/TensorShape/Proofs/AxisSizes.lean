import Mathlib.Data.List.FinRange
import Mathlib.Data.List.Forall2
import TensorShape.Proofs.GridSizes
import TensorShape.Proofs.Revalidation

/-! # Sizes over chosen axes

A list of values either names an axis with each of them or has a first one that names none
(`exists_names_or_stops`).  In the second case the size over these axes is refused on account of
that value (`sizeOver_of_misses`): all values are looked at before any dimension is, so it does not
matter whether the size would be unknown.  A value that stands for an integer and does not compare
with integers cannot even be refused, since to find out whether it names an axis is a fault
(`sizeOver_of_not_comparable`).  In the first case the size is that of the grid with the
sides chosen (`sizeOver_of_names`), and what holds of the sizes of grids holds of it.

No values stand for all axes, not for none: a grid without sides has one position, but a shape is
asked for none of its axes only if it has none. -/
namespace TensorShape.Shape

open List (Forall₂)

variable {s : Shape} {v : Value} {axes axes' before later : List Value}
  {chosen chosen' : List (Fin s.rank)}

/-- A value is or stands for the position of an axis, and can be asked whether it does. -/
structure Names (s : Shape) (v : Value) (i : Fin s.rank) : Prop where
  compares : v.isComparable = true
  integer : v.integer? = some ((i : Nat) : Int)

/-- A value is no integer, or one that is not the position of an axis. -/
structure Misses (s : Shape) (v : Value) : Prop where
  compares : v.isComparable = true
  outside : ∀ n, v.integer? = some n → ¬ (0 ≤ n ∧ n < s.rank)

/-! ## Finding the axes -/

theorem names_or_misses (s : Shape) (v : Value) :
    (∃ i, s.Names v i) ∨ s.Misses v ∨ v.isComparable = false := by
  match compares : v.isComparable with
  | false => exact .inr (.inr rfl)
  | true =>
    by_cases within : ∃ n, v.integer? = some n ∧ 0 ≤ n ∧ n < s.rank
    · obtain ⟨n, integer, nonneg, below⟩ := within
      have natural : (n.toNat : Int) = n := Int.toNat_of_nonneg nonneg
      exact .inl ⟨⟨n.toNat, by omega⟩, compares, by rw [integer, natural]⟩
    · exact .inr (.inl ⟨compares, fun n integer inside => within ⟨n, integer, inside⟩⟩)

/-- Either all values name axes, or one of them is the first that does not. -/
theorem exists_names_or_stops (s : Shape) (axes : List Value) :
    (∃ chosen, Forall₂ s.Names axes chosen) ∨
      ∃ before v later chosen, axes = before ++ v :: later ∧ Forall₂ s.Names before chosen ∧
        (s.Misses v ∨ v.isComparable = false) := by
  induction axes with
  | nil => exact .inl ⟨[], .nil⟩
  | cons v rest ih =>
    rcases s.names_or_misses v with ⟨i, named⟩ | stopped
    · rcases ih with ⟨chosen, others⟩ | ⟨before, w, later, chosen, rfl, others, stopped⟩
      · exact .inl ⟨i :: chosen, .cons named others⟩
      · exact .inr ⟨v :: before, w, later, i :: chosen, rfl, .cons named others, stopped⟩
    · exact .inr ⟨[], v, rest, [], rfl, .nil, stopped⟩

theorem mapM_locate (query : AxisQuery) (named : Forall₂ s.Names axes chosen) :
    axes.mapM (s.locate query) = pure chosen := by
  induction named with
  | nil => rfl
  | @cons v i _ _ first _ ih =>
    rw [List.mapM_cons, locate_of_within query first.compares first.integer i.isLt, pure_bind, ih,
      pure_bind]

theorem axis?_of_misses (missed : s.Misses v) : s.axis? v = none := by
  rw [Option.eq_none_iff_forall_ne_some]
  intro i found
  have below := i.isLt
  exact missed.outside _ (axis?_eq_some_iff.mp found).2 (by omega)

theorem locate_of_misses (query : AxisQuery) (missed : s.Misses v) {run : Run}
    {shown form : String} {between after : List Source}
    (first : v.write run.cursors = (.ok shown, between))
    (second : v.write between = (.ok form, after)) :
    s.locate query v run = (.error (.rejected (.axisOutOfRange query shown form s.rank)),
      { run with cursors := after }) := by
  have forms : reportedForms v run = (.ok (shown, form), { run with cursors := after }) := by
    rw [reportedForms, bind_of_ok (Eval.ofDraw_of_ok first), bind_of_ok (Eval.ofDraw_of_ok second)]
    rfl
  simp only [locate, axis?_of_misses missed, missed.compares, if_true]
  exact bind_of_ok forms _

/-! ## Sizes -/

theorem sizeOver_def (h : axes ≠ []) : s.sizeOver axes = do
    let chosen ← axes.mapM (s.locate .size)
    return gridSize (chosen.map s.dimensionAt) := by
  rw [sizeOver]
  exact h

theorem sizeOver_of_names (h : axes ≠ []) (named : Forall₂ s.Names axes chosen) :
    s.sizeOver axes = pure (gridSize (chosen.map s.dimensionAt)) := by
  rw [sizeOver_def h, mapM_locate .size named, pure_bind]

/-- Values that name axes are passed over, and then the next value is looked at. -/
theorem sizeOver_append (named : Forall₂ s.Names before chosen) (v : Value) (later : List Value) :
    s.sizeOver (before ++ v :: later) = do
      let i ← s.locate .size v
      let others ← later.mapM (s.locate .size)
      return gridSize ((chosen ++ i :: others).map s.dimensionAt) := by
  rw [sizeOver_def (by simp), List.mapM_append, mapM_locate .size named, pure_bind, List.mapM_cons]
  simp only [bind_assoc, pure_bind]

/-- The first value that names no axis is refused, whatever the dimensions of the axes before it
and whatever values come after it. -/
theorem sizeOver_of_misses (named : Forall₂ s.Names before chosen) (missed : s.Misses v)
    {run : Run} {shown form : String} {between after : List Source}
    (first : v.write run.cursors = (.ok shown, between))
    (second : v.write between = (.ok form, after)) :
    s.sizeOver (before ++ v :: later) run
      = (.error (.rejected (.axisOutOfRange .size shown form s.rank)),
        { run with cursors := after }) := by
  rw [sizeOver_append named]
  exact bind_of_error (locate_of_misses .size missed first second) _

/-- So is the first value for which that cannot be found out, by a fault. -/
theorem sizeOver_of_not_comparable (named : Forall₂ s.Names before chosen)
    (silent : v.isComparable = false) (later : List Value) :
    s.sizeOver (before ++ v :: later) = throw (.fault (.notComparable v.typeName)) := by
  rw [sizeOver_append named, locate_of_not_comparable s .size silent]
  rfl

theorem bounded_dimensionAt (valid : s.Valid) (chosen : List (Fin s.rank)) :
    ∀ d ∈ chosen.map s.dimensionAt, -1 ≤ d :=
  List.forall_mem_map.mpr fun _ _ => valid.bounded _ (List.get_mem _ _)

/-- All positions in their order name all axes. -/
theorem names_range (s : Shape) :
    Forall₂ s.Names ((List.range s.rank).map fun i : Nat => .int i) (List.finRange s.rank) := by
  rw [← List.map_coe_finRange_eq_range, List.map_map, List.forall₂_map_left_iff]
  exact List.forall₂_same.mpr fun _ _ => ⟨rfl, rfl⟩

theorem sizeOver_range (h : s.rank ≠ 0) :
    s.sizeOver ((List.range s.rank).map fun i : Nat => .int i) = pure s.size := by
  have some : (List.range s.rank).map (fun i : Nat => Value.int i) ≠ [] := by simpa using h
  rw [sizeOver_of_names some s.names_range]
  exact congrArg (fun ds => pure (gridSize ds)) (List.map_get_finRange s.dimensions)

/-- The order in which axes are named makes no difference. -/
theorem sizeOver_perm (h : axes ≠ []) (named : Forall₂ s.Names axes chosen)
    (perm : axes'.Perm axes) : s.sizeOver axes' = s.sizeOver axes := by
  obtain ⟨chosen', named', same⟩ := List.perm_comp_forall₂ perm named
  have h' : axes' ≠ [] := mt (fun none => (none ▸ perm).symm.eq_nil) h
  rw [sizeOver_of_names h named, sizeOver_of_names h' named',
    gridSize_perm (same.map s.dimensionAt)]

/-! ## Together -/

/-- What the sizes of a shape over some of its axes are. -/
structure SizeSemantics (s : Shape) : Prop where
  /-- Either all values name axes, or there is a first that does not. -/
  settled : ∀ axes : List Value, (∃ chosen, Forall₂ s.Names axes chosen) ∨
    ∃ before v later chosen, axes = before ++ v :: later ∧ Forall₂ s.Names before chosen ∧
      (s.Misses v ∨ v.isComparable = false)
  /-- The first that does not is refused, as it is written, and nothing is logged, -/
  refused : ∀ {before : List Value} {v : Value} {chosen : List (Fin s.rank)} {run : Run}
    {shown form : String} {between after : List Source} (later : List Value),
    Forall₂ s.Names before chosen → s.Misses v → v.write run.cursors = (.ok shown, between) →
    v.write between = (.ok form, after) →
    s.sizeOver (before ++ v :: later) run
      = (.error (.rejected (.axisOutOfRange .size shown form s.rank)),
        { run with cursors := after })
  /-- unless it stands for an integer and does not compare with any. -/
  incomparable : ∀ {before : List Value} {v : Value} {chosen : List (Fin s.rank)}
    (later : List Value), Forall₂ s.Names before chosen → v.isComparable = false →
    s.sizeOver (before ++ v :: later) = throw (.fault (.notComparable v.typeName))
  reported : ∀ shown form : String, (Cause.axisOutOfRange .size shown form s.rank).diagnostic.kind
      = .indexOutOfRange ∧
    (Cause.axisOutOfRange .size shown form s.rank).diagnostic.data
      = [(.plain "axis", .plain form), (.plain "rank", .count s.rank)]
  /-- An axis counts as often as it is named, and one unknown dimension makes the size unknown. -/
  counted : ∀ {axes : List Value} {chosen : List (Fin s.rank)}, axes ≠ [] →
    Forall₂ s.Names axes chosen → s.sizeOver axes = pure
      (if -1 ∈ chosen.map s.dimensionAt then -1 else (chosen.map s.dimensionAt).prod)
  /-- The mark of the unknown is the least size, and no product comes to it. -/
  unknown : ∀ {axes : List Value} {chosen : List (Fin s.rank)} {n : Int}, axes ≠ [] →
    Forall₂ s.Names axes chosen → s.sizeOver axes = pure n →
    -1 ≤ n ∧ (n = -1 ↔ -1 ∈ chosen.map s.dimensionAt)
  permuted : ∀ {axes axes' : List Value} {chosen : List (Fin s.rank)}, axes ≠ [] →
    Forall₂ s.Names axes chosen → axes'.Perm axes → s.sizeOver axes' = s.sizeOver axes
  appended : ∀ {axes axes' : List Value} {chosen chosen' : List (Fin s.rank)},
    axes ≠ [] → axes' ≠ [] → Forall₂ s.Names axes chosen → Forall₂ s.Names axes' chosen' →
    ∃ m n, s.sizeOver axes = pure m ∧ s.sizeOver axes' = pure n ∧
      s.sizeOver (axes ++ axes') = pure (timesSize m n)
  /-- No values stand for all axes in their order. -/
  whole : s.rank ≠ 0 → s.sizeOver [] = s.sizeOver ((List.range s.rank).map fun i : Nat => .int i)
  scalar : s.rank = 0 → s.sizeOver [] = pure 1
  total : ∃ n, s.sizeOver [] = pure n ∧ (n = 0 ↔ -1 ∉ s.dimensions ∧ 0 ∈ s.dimensions) ∧
    (n = 1 ↔ ∀ d ∈ s.dimensions, d = 1)

/-- **Sizes count positions**, and are refused or unknown for no other reason than the axes
named. -/
theorem Valid.sizeSemantics (valid : s.Valid) : SizeSemantics s where
  settled := s.exists_names_or_stops
  refused _ named missed first second := sizeOver_of_misses named missed first second
  incomparable later named silent := sizeOver_of_not_comparable named silent later
  reported _ _ := ⟨rfl, rfl⟩
  counted := sizeOver_of_names
  unknown {axes chosen n} h named size := by
    obtain rfl := Eval.pure_inj.mp ((sizeOver_of_names h named).symm.trans size)
    have bounded := bounded_dimensionAt valid chosen
    exact ⟨neg_one_le_gridSize bounded, gridSize_eq_unknownMark_iff bounded⟩
  permuted := sizeOver_perm
  appended {axes axes' chosen chosen'} h h' named named' := by
    refine ⟨_, _, sizeOver_of_names h named, sizeOver_of_names h' named', ?_⟩
    have joined := List.rel_append named named'
    rw [sizeOver_of_names (by simp [h]) joined, List.map_append,
      gridSize_append (bounded_dimensionAt valid _) (bounded_dimensionAt valid _)]
  whole h := (sizeOver_range h).symm
  scalar h := by
    rw [sizeOver, size, List.length_eq_zero_iff.mp h]
    rfl
  total := ⟨s.size, rfl, gridSize_eq_zero_iff, gridSize_eq_one_iff valid.bounded⟩

/-- A dimension named twice is squared, zero does not outweigh an unknown dimension, nothing is
counted from the back, and what only stands for an integer names no axis, not even a wrong one. -/
theorem Valid.sizeSemantics_repeated :
    let s : Shape := ⟨[0, -1, 3], [.batch, .height, .width]⟩
    let silent : Value := .index ⟨"Number", "Number(5)"⟩ false 5
    s.Valid ∧ SizeSemantics s ∧
      s.sizeOver [.int 2, .index ⟨"Index", "Index(2)"⟩ true 2] = pure 9 ∧
      s.sizeOver [.int 0, .int 1] = pure (-1) ∧
      s.sizeOver [.int 1, .int (-1), .bool true] ⟨.off, [], [], []⟩
        = (.error (.rejected (.axisOutOfRange .size "-1" "-1" 3)), ⟨.off, [], [], []⟩) ∧
      s.sizeOver [.int 1, silent] = throw (.fault (.notComparable "Number")) := by
  intro s silent
  have valid : s.Valid := by decide
  have semantics := valid.sizeSemantics
  let first : Fin s.rank := ⟨0, by decide⟩
  let second : Fin s.rank := ⟨1, by decide⟩
  let third : Fin s.rank := ⟨2, by decide⟩
  have twice : Forall₂ s.Names [.int 2, .index ⟨"Index", "Index(2)"⟩ true 2] [third, third] :=
    .cons ⟨rfl, rfl⟩ (.cons ⟨rfl, rfl⟩ .nil)
  have both : Forall₂ s.Names [.int 0, .int 1] [first, second] :=
    .cons ⟨rfl, rfl⟩ (.cons ⟨rfl, rfl⟩ .nil)
  have named : Forall₂ s.Names [.int 1] [second] := .cons ⟨rfl, rfl⟩ .nil
  have missed : s.Misses (.int (-1)) := by
    refine ⟨rfl, fun n integer within => ?_⟩
    obtain rfl : -1 = n := Option.some.inj integer
    omega
  exact ⟨valid, semantics, semantics.counted (List.cons_ne_nil _ _) twice,
    semantics.counted (List.cons_ne_nil _ _) both,
    semantics.refused [.bool true] named missed rfl rfl, semantics.incomparable [] named rfl⟩

end TensorShape.Shape

import TensorShape.Proofs.Reliance

/-! # Printed forms can be read back

Shapes that look alike are alike: the form for a reader tells the dimensions, the two
unambiguous forms tell the tags as well.  The argument goes from the inside out.  An
integer is known by its digits (`toString_int_inj`).  The parts of a sequence are known
from the sequence if each part shows where it ends (`Delimited`, `joined_inj`): digits
end at a comma, pairs end at their closing bracket.  The comma after a lone part tells a
tuple of one from all others (`asTuple_inj`).  And the closing bracket of the tuple is
the first one there is, so what follows it, a layout or nothing, is known too. -/
namespace TensorShape

/-! ## Characters -/

/-- The first separator splits a list of characters in one way. -/
theorem append_cons_inj {c : Char} {x y u v : List Char} (hx : c ∉ x) (hy : c ∉ y)
    (h : x ++ c :: u = y ++ c :: v) : x = y ∧ u = v := by
  induction x generalizing y with
  | nil =>
    cases y with
    | nil => exact ⟨rfl, (List.cons.inj h).2⟩
    | cons b y => exact absurd (List.cons.inj h).1 (List.ne_of_not_mem_cons hy)
  | cons a x ih =>
    cases y with
    | nil => exact absurd (List.cons.inj h).1.symm (List.ne_of_not_mem_cons hx)
    | cons b y =>
      obtain ⟨rfl, rest⟩ := List.cons.inj h
      obtain ⟨rfl, same⟩ := ih (List.not_mem_of_not_mem_cons hx) (List.not_mem_of_not_mem_cons hy)
        rest
      exact ⟨rfl, same⟩

namespace Sequence

/-- What may follow a part of a sequence: nothing, or a comma. -/
def Ends (tail : List Char) : Prop := tail = [] ∨ ∃ rest, tail = ',' :: rest

/-- Each part shows where it ends. -/
structure Delimited (Part : List Char → Prop) : Prop where
  nonempty : ∀ {x}, Part x → x ≠ []
  separate : ∀ {x y u v}, Part x → Part y → Ends u → Ends v → x ++ u = y ++ v → x = y ∧ u = v

/-- Characters without a comma. -/
def Plain (x : List Char) : Prop := x ≠ [] ∧ ',' ∉ x

/-- A plain part ends where the first comma is, or else at the end. -/
theorem delimited_plain : Delimited Plain where
  nonempty h := h.1
  separate {x y u v} hx hy hu hv h := by
    -- a comma put after both sides is the first one after either part
    have closed {tail : List Char} (ends : Ends tail) : ∃ rest, tail ++ [','] = ',' :: rest := by
      rcases ends with rfl | ⟨rest, rfl⟩
      · exact ⟨[], rfl⟩
      · exact ⟨rest ++ [','], rfl⟩
    obtain ⟨u', hu⟩ := closed hu
    obtain ⟨v', hv⟩ := closed hv
    have padded : x ++ (u ++ [',']) = y ++ (v ++ [',']) := by
      rw [← List.append_assoc, ← List.append_assoc, h]
    rw [hu, hv] at padded
    obtain ⟨rfl, -⟩ := append_cons_inj hx.2 hy.2 padded
    exact ⟨rfl, List.append_cancel_left h⟩

/-- A pair in round brackets, of a part without a comma and one without a closing bracket. -/
def Paired (x : List Char) : Prop :=
  ∃ d name, ',' ∉ d ∧ ')' ∉ name ∧ x = '(' :: (d ++ ',' :: ' ' :: (name ++ [')']))

/-- A pair ends at its closing bracket. -/
theorem delimited_paired : Delimited Paired where
  nonempty := by
    rintro _ ⟨d, name, -, -, rfl⟩
    nofun
  separate := by
    rintro _ _ u v ⟨d, name, hd, hname, rfl⟩ ⟨d', name', hd', hname', rfl⟩ - - h
    simp only [List.cons_append, List.append_assoc, List.nil_append, List.cons.injEq, true_and] at h
    obtain ⟨rfl, rest⟩ := append_cons_inj hd hd' h
    obtain ⟨rfl, same⟩ := append_cons_inj hname hname' (List.cons.inj rest).2
    exact ⟨rfl, same⟩

/-- The separator between two parts. -/
def separator : List Char := [',', ' ']

/-- What follows the first part of a sequence, given the other parts. -/
def trail : List (List Char) → List Char
  | [] => []
  | xs => separator ++ separator.intercalate xs

theorem ends_trail (xs : List (List Char)) : Ends (trail xs) := by
  cases xs with
  | nil => exact .inl rfl
  | cons x xs => exact .inr ⟨_, rfl⟩

theorem intercalate_cons (x : List Char) (xs : List (List Char)) :
    separator.intercalate (x :: xs) = x ++ trail xs := by
  cases xs <;> simp [trail]

variable {Part : List Char → Prop}

theorem intercalate_inj (delimited : Delimited Part) {xs ys : List (List Char)}
    (hx : ∀ x ∈ xs, Part x) (hy : ∀ y ∈ ys, Part y)
    (h : separator.intercalate xs = separator.intercalate ys) : xs = ys := by
  have visible {y : List Char} (ys : List (List Char)) (part : Part y) :
      separator.intercalate (y :: ys) ≠ [] := by
    rw [intercalate_cons]
    exact fun none => delimited.nonempty part (List.append_eq_nil_iff.mp none).1
  induction xs generalizing ys with
  | nil =>
    cases ys with
    | nil => rfl
    | cons y ys => exact absurd h.symm (visible ys (hy y List.mem_cons_self))
  | cons x xs ih =>
    cases ys with
    | nil => exact absurd h (visible xs (hx x List.mem_cons_self))
    | cons y ys =>
      obtain ⟨partX, restX⟩ := List.forall_mem_cons.mp hx
      obtain ⟨partY, restY⟩ := List.forall_mem_cons.mp hy
      rw [intercalate_cons, intercalate_cons] at h
      -- the first parts end in the same place, so the same is left to be read
      obtain ⟨rfl, trails⟩ := delimited.separate partX partY (ends_trail xs) (ends_trail ys) h
      have same : separator.intercalate xs = separator.intercalate ys := by
        cases xs <;> cases ys
        · rfl
        · cases trails
        · cases trails
        · exact List.append_cancel_left trails
      rw [ih restX restY same]

theorem toList_joined (parts : List String) :
    (joined parts).toList = separator.intercalate (parts.map String.toList) := by
  rw [joined, String.toList_intercalate]
  rfl

/-- Sequences whose parts show where they end are known from what they look like. -/
theorem joined_inj (delimited : Delimited Part) {xs ys : List String}
    (hx : ∀ x ∈ xs, Part x.toList) (hy : ∀ y ∈ ys, Part y.toList) (h : joined xs = joined ys) :
    xs = ys := by
  have chars := congrArg String.toList h
  rw [toList_joined, toList_joined] at chars
  have same := intercalate_inj delimited (List.forall_mem_map.mpr hx)
    (List.forall_mem_map.mpr hy) chars
  exact (List.map_inj_right fun _ _ => String.toList_inj.mp).mp same

/-- What stands between two fixed texts is known from the whole. -/
theorem between_inj {first last a b : String} (h : first ++ a ++ last = first ++ b ++ last) :
    a = b := by
  rw [← String.toList_inj] at h ⊢
  simpa using h

/-- Each character of a joined sequence is one of a part or of a separator. -/
theorem mem_joined {c : Char} {parts : List String} (h : c ∈ (joined parts).toList) :
    c ∈ separator ∨ ∃ part ∈ parts, c ∈ part.toList := by
  rw [toList_joined] at h
  induction parts with
  | nil => cases h
  | cons part rest ih =>
    rw [List.map_cons, intercalate_cons] at h
    rcases List.mem_append.mp h with first | later
    · exact .inr ⟨part, List.mem_cons_self, first⟩
    · cases rest with
      | nil => cases later
      | cons other rest =>
        rcases List.mem_append.mp later with between | later
        · exact .inl between
        · rcases ih later with between | ⟨part, held, found⟩
          · exact .inl between
          · exact .inr ⟨part, List.mem_cons_of_mem _ held, found⟩

/-! ## Tuples -/

/-- The parts of a tuple between its brackets. -/
def inner : List String → String
  | [part] => part ++ ","
  | parts => joined parts

theorem asTuple_eq (parts : List String) : asTuple parts = "(" ++ inner parts ++ ")" := by
  match parts with
  | [] => rfl
  | [part] => simp [asTuple, inner, String.append_assoc]
  | _ :: _ :: _ => rfl

/-- The comma after a lone part stands in no joined sequence, where a blank follows each comma. -/
theorem append_comma_ne_joined {x : String} {ys : List String} (hx : Plain x.toList)
    (hy : ∀ y ∈ ys, Plain y.toList) : x ++ "," ≠ joined ys := by
  intro h
  have chars := congrArg String.toList h
  rw [toList_joined, String.toList_append] at chars
  cases ys with
  | nil => exact hx.1 (List.append_eq_nil_iff.mp chars).1
  | cons y ys =>
    rw [List.map_cons, intercalate_cons] at chars
    obtain ⟨-, trails⟩ := delimited_plain.separate hx (hy y List.mem_cons_self) (.inr ⟨[], rfl⟩)
      (ends_trail _) chars
    cases ys with
    | nil => cases trails
    | cons z ys => cases trails

theorem mem_inner {c : Char} {parts : List String} (h : c ∈ (inner parts).toList) :
    c ∈ separator ∨ ∃ part ∈ parts, c ∈ part.toList := by
  unfold inner at h
  split at h
  · rename_i part
    rw [String.toList_append] at h
    rcases List.mem_append.mp h with inside | comma
    · exact .inr ⟨part, List.mem_cons_self, inside⟩
    · exact .inl (List.mem_singleton.mp comma ▸ List.mem_cons_self)
  · exact mem_joined h

/-- A tuple of plain parts is known from what stands between its brackets. -/
theorem inner_inj {xs ys : List String} (hx : ∀ x ∈ xs, Plain x.toList)
    (hy : ∀ y ∈ ys, Plain y.toList) (h : inner xs = inner ys) : xs = ys := by
  match xs, ys with
  | [x], [y] =>
    have same : x = y := by simpa [inner] using h
    rw [same]
  | [x], [] => exact absurd h (append_comma_ne_joined (hx x List.mem_cons_self) hy)
  | [x], _ :: _ :: _ => exact absurd h (append_comma_ne_joined (hx x List.mem_cons_self) hy)
  | [], [y] => exact absurd h.symm (append_comma_ne_joined (hy y List.mem_cons_self) hx)
  | _ :: _ :: _, [y] => exact absurd h.symm (append_comma_ne_joined (hy y List.mem_cons_self) hx)
  | [], [] => rfl
  | [], _ :: _ :: _ => exact joined_inj delimited_plain hx hy h
  | _ :: _ :: _, [] => exact joined_inj delimited_plain hx hy h
  | _ :: _ :: _, _ :: _ :: _ => exact joined_inj delimited_plain hx hy h

end Sequence

/-! ## Integers -/

/-- The characters of an integer are digits and the minus sign. -/
theorem mem_toString_int {n : Int} {c : Char} (h : c ∈ (toString n).toList) :
    c.isDigit = true ∨ c = '-' := by
  rw [Int.toString_eq_repr, Int.repr_eq_if] at h
  split at h
  · rw [Nat.toList_repr] at h
    exact .inl (Nat.isDigit_of_mem_toDigits (by decide) (by decide) h)
  · rw [String.toList_append, Nat.toList_repr] at h
    rcases List.mem_append.mp h with sign | digit
    · exact .inr (List.mem_singleton.mp sign)
    · exact .inl (Nat.isDigit_of_mem_toDigits (by decide) (by decide) digit)

theorem toString_int_ne_nil (n : Int) : (toString n).toList ≠ [] := by
  rw [Int.toString_eq_repr, Int.repr_eq_if]
  split <;> simp

/-- A natural number is known by its digits. -/
theorem repr_nat_inj {m n : Nat} (h : m.repr = n.repr) : m = n := by
  have digits := congrArg String.toList h
  rw [Nat.toList_repr, Nat.toList_repr] at digits
  rw [← Nat.ofDigitChars_ten_toDigits (n := m), digits, Nat.ofDigitChars_ten_toDigits]

/-- No natural number has a minus sign. -/
theorem repr_ne_minus (m : Nat) (digits : String) : m.repr ≠ "-" ++ digits := by
  intro h
  have chars := congrArg String.toList h
  rw [Nat.toList_repr, String.toList_append] at chars
  have sign : '-' ∈ Nat.toDigits 10 m := by
    rw [chars]
    exact List.mem_append_left _ List.mem_cons_self
  cases Nat.isDigit_of_mem_toDigits (by decide) (by decide) sign

/-- An integer is known by its sign and its digits. -/
theorem toString_int_inj {m n : Int} (h : toString m = toString n) : m = n := by
  rw [Int.toString_eq_repr, Int.toString_eq_repr, Int.repr_eq_if, Int.repr_eq_if] at h
  split at h <;> split at h
  · have := repr_nat_inj h
    omega
  · exact absurd h (repr_ne_minus _ _)
  · exact absurd h.symm (repr_ne_minus _ _)
  · have same : (-m).toNat.repr = (-n).toNat.repr := by
      rw [← String.toList_inj] at h ⊢
      simpa using h
    have := repr_nat_inj same
    omega

theorem plain_toString_int (n : Int) : Sequence.Plain (toString n).toList := by
  refine ⟨toString_int_ne_nil n, fun comma => ?_⟩
  rcases mem_toString_int comma with digit | sign
  · cases digit
  · cases sign

theorem bracket_not_mem_toString_int (n : Int) : ')' ∉ (toString n).toList := by
  intro bracket
  rcases mem_toString_int bracket with digit | sign
  · cases digit
  · cases sign

namespace Shape

variable {s t : Shape}

theorem plain_digits (s : Shape) : ∀ x ∈ s.digits, Sequence.Plain x.toList :=
  List.forall_mem_map.mpr fun d _ => plain_toString_int d

theorem digits_inj (h : s.digits = t.digits) : s.dimensions = t.dimensions :=
  (List.map_inj_right fun _ _ => toString_int_inj).mp h

/-- The form for a reader tells the dimensions. -/
theorem display_inj : s.display = t.display ↔ s.dimensions = t.dimensions := by
  constructor
  · intro h
    exact digits_inj (Sequence.joined_inj Sequence.delimited_plain s.plain_digits t.plain_digits
      (Sequence.between_inj h))
  · intro h
    rw [display, display, digits, digits, h]

/-! ## Layouts -/

theorem escape_char (tag : Tag) : Quoted.escape Quoted.apostrophe tag.char = [tag.char] := by
  cases tag <;> rfl

/-- No letter of a layout is escaped. -/
theorem quoteChars_letters (layout : Layout) : Quoted.quoteChars layout.letters
    = Quoted.apostrophe :: layout.letters ++ [Quoted.apostrophe] := by
  have mark : Quoted.markFor layout.letters = Quoted.apostrophe := by
    have none : layout.letters.contains Quoted.apostrophe = false := by
      rw [List.contains_eq_mem, decide_eq_false_iff_not]
      intro held
      obtain ⟨tag, -, same⟩ := List.mem_map.mp held
      cases tag <;> cases same
    rw [Quoted.markFor, none]
    rfl
  have letters (layout : Layout) :
      layout.letters.flatMap (Quoted.escape Quoted.apostrophe) = layout.letters := by
    induction layout with
    | nil => rfl
    | cons tag rest ih =>
      change Quoted.escape _ tag.char ++ List.flatMap _ (Layout.letters rest) = _
      rw [escape_char, ih]
      rfl
  rw [Quoted.quoteChars, mark, letters]

theorem toList_quote_layoutSpelling (s : Shape) : (Quoted.quote s.layoutSpelling).toList
    = Quoted.apostrophe :: s.layout.letters ++ [Quoted.apostrophe] := by
  rw [Quoted.quote, String.toList_ofList, layoutSpelling, Layout.encode, String.toList_ofList,
    quoteChars_letters]

theorem letters_inj {l m : Layout} (h : l.letters = m.letters) : l = m :=
  (List.map_inj_right fun _ _ => Tag.char_inj.mp).mp h

theorem layout_of_not_isTagged (h : s.isTagged = false) :
    s.layout = Layout.silent s.layout.length := by
  refine List.eq_replicate_iff.mpr ⟨rfl, fun tag held => ?_⟩
  have untagged := List.any_eq_false.mp h tag held
  simpa using untagged

/-- What the unambiguous form has after the tuple of the dimensions. -/
def suffix (s : Shape) : List Char :=
  if s.isTagged then ", layout=".toList ++ (Quoted.quote s.layoutSpelling).toList ++ [')']
  else [')']

theorem toList_written (s : Shape) : s.written.toList
    = "Shape((".toList ++ ((Sequence.inner s.digits).toList ++ ')' :: s.suffix) := by
  have opening : ("Shape((" : String) = "Shape(" ++ "(" := by decide
  unfold written suffix
  split <;> simp [Sequence.asTuple_eq, opening]

theorem bracket_not_mem_inner (s : Shape) : ')' ∉ (Sequence.inner s.digits).toList := by
  intro bracket
  rcases Sequence.mem_inner bracket with between | ⟨part, held, inside⟩
  · exact absurd between (by decide)
  · obtain ⟨d, -, rfl⟩ := List.mem_map.mp held
    exact bracket_not_mem_toString_int d inside

theorem suffix_inj (hs : s.Valid) (ht : t.Valid) (dimensions : s.dimensions = t.dimensions)
    (h : s.suffix = t.suffix) : s.layout = t.layout := by
  have lengths : s.layout.length = t.layout.length := by
    rw [← hs.lengths, ← ht.lengths, dimensions]
  unfold suffix at h
  -- with a layout the suffix starts with a comma, without one it is the bracket alone
  split at h <;> split at h
  · have spelled := List.append_cancel_left (List.append_cancel_right h)
    rw [toList_quote_layoutSpelling, toList_quote_layoutSpelling] at spelled
    exact letters_inj (List.append_cancel_right (List.cons.inj spelled).2)
  · exact absurd (List.cons.inj h).1 (by decide)
  · exact absurd (List.cons.inj h).1 (by decide)
  · rename_i hs' ht'
    rw [layout_of_not_isTagged (Bool.eq_false_iff.mpr hs'),
      layout_of_not_isTagged (Bool.eq_false_iff.mpr ht'), lengths]

/-- The unambiguous form tells the dimensions and the tags. -/
theorem written_inj (hs : s.Valid) (ht : t.Valid) :
    s.written = t.written ↔ s.dimensions = t.dimensions ∧ s.layout = t.layout := by
  constructor
  · intro h
    have chars := congrArg String.toList h
    rw [toList_written, toList_written] at chars
    obtain ⟨tuple, suffix⟩ := append_cons_inj s.bracket_not_mem_inner t.bracket_not_mem_inner
      (List.append_cancel_left chars)
    have dimensions := digits_inj (Sequence.inner_inj s.plain_digits t.plain_digits
      (String.toList_inj.mp tuple))
    exact ⟨dimensions, suffix_inj hs ht dimensions suffix⟩
  · intro ⟨dimensions, layout⟩
    obtain ⟨ds, ts⟩ := s
    cases dimensions
    cases layout
    rfl

/-! ## Pairs -/

theorem toList_displayPair (axis : Axis) : axis.displayPair.toList
    = '(' :: ((toString axis.dimension).toList ++ ',' :: ' ' ::
        (axis.tag.name.toList ++ [')'])) := by
  rw [Axis.displayPair, Sequence.inRound, String.toList_append, String.toList_append,
    Sequence.toList_joined]
  simp [Sequence.separator]

theorem bracket_not_mem_name (tag : Tag) : ')' ∉ tag.name.toList := by
  cases tag <;> decide

theorem paired_displayPair (axis : Axis) : Sequence.Paired axis.displayPair.toList :=
  ⟨_, _, (plain_toString_int axis.dimension).2, bracket_not_mem_name axis.tag,
    toList_displayPair axis⟩

theorem displayPair_inj {a b : Axis} (h : a.displayPair = b.displayPair) : a = b := by
  have chars := congrArg String.toList h
  rw [toList_displayPair, toList_displayPair] at chars
  obtain ⟨digits, rest⟩ := append_cons_inj (plain_toString_int a.dimension).2
    (plain_toString_int b.dimension).2 (List.cons.inj chars).2
  have names := List.append_cancel_right (List.cons.inj rest).2
  have dimension := toString_int_inj (String.toList_inj.mp digits)
  have tag := Tag.name_inj.mp (String.toList_inj.mp names)
  cases a
  cases b
  exact congr (congrArg Axis.mk dimension) tag

/-- The pairs in print tell the dimensions and the tags. -/
theorem writtenPairs_inj (hs : s.Valid) (ht : t.Valid) :
    s.writtenPairs = t.writtenPairs ↔ s.dimensions = t.dimensions ∧ s.layout = t.layout := by
  constructor
  · intro h
    have paired (s : Shape) : ∀ x ∈ s.axes.map Axis.displayPair, Sequence.Paired x.toList :=
      List.forall_mem_map.mpr fun axis _ => paired_displayPair axis
    have forms := Sequence.joined_inj Sequence.delimited_paired (paired s) (paired t)
      (Sequence.between_inj (Sequence.between_inj h))
    have axes := (List.map_inj_right fun _ _ => displayPair_inj).mp forms
    rw [hs.ext ht axes]
    exact ⟨rfl, rfl⟩
  · intro ⟨dimensions, layout⟩
    rw [writtenPairs, writtenPairs, axes, axes, dimensions, layout]

end Shape

/-! ## What callers see -/

/-- What comes of an operation, leaving its traces aside. -/
abbrev Operation.answer (operation : Operation) (run : Run) : Except Failure Result :=
  (operation.run run).1

/-- **Printed forms are faithful.**  The form for a reader tells two valid shapes apart that are not
equal, and each of the unambiguous forms tells two apart that do not have the same tags as well.
Callers see the forms of all shapes that can be printed. -/
theorem Shape.printed_faithfully {s t : Shape} (hs : s.Valid) (ht : t.Valid) (run : Run) :
    ((s.display = t.display ↔ s.dimensions = t.dimensions) ∧
      ((Value.shape s).same (.shape t) = true ↔ s.dimensions = t.dimensions) ∧
      (s.written = t.written ↔ s.dimensions = t.dimensions ∧ s.layout = t.layout) ∧
      (s.writtenPairs = t.writtenPairs ↔ s.dimensions = t.dimensions ∧ s.layout = t.layout)) ∧
    (s.Printable → t.Printable →
      ((Operation.query s .display).answer run = (Operation.query t .display).answer run
        ↔ s.dimensions = t.dimensions) ∧
      ((Operation.displayed (.shape s)).answer run = (Operation.displayed (.shape t)).answer run
        ↔ s.dimensions = t.dimensions) ∧
      ((Operation.written (.shape s)).answer run = (Operation.written (.shape t)).answer run
        ↔ s.dimensions = t.dimensions ∧ s.layout = t.layout) ∧
      ((Operation.written (.pairsOf s)).answer run = (Operation.written (.pairsOf t)).answer run
        ↔ s.dimensions = t.dimensions ∧ s.layout = t.layout)) := by
  have agreed : (Value.shape s).same (.shape t) = true ↔ s.dimensions = t.dimensions := by
    simp [Value.same, agrees]
  refine ⟨⟨display_inj, agreed, written_inj hs ht, writtenPairs_inj hs ht⟩, fun ps pt => ?_⟩
  have same {a b : String} : (Except.ok (.value (.plain a)) : Except Failure Result)
      = .ok (.value (.plain b)) ↔ a = b := by
    simp [Value.plain]
  have seen {operation operation' : Operation} {a b : String}
      (first : operation.run = pure (.value (.plain a)))
      (second : operation'.run = pure (.value (.plain b))) :
      operation.answer run = operation'.answer run ↔ a = b := by
    rw [Operation.answer, Operation.answer, first, second]
    exact same
  have displayed {s : Shape} (printable : s.Printable) :
      (Operation.displayed (.shape s)).run = pure (.value (.plain s.display)) := by
    rw [Operation.run, Value.display, Value.displayedAs, Fault.showing_of_fit printable]
    rfl
  exact ⟨(seen (hs.reliable.display ps) (ht.reliable.display pt)).trans display_inj,
    (seen (displayed ps) (displayed pt)).trans display_inj,
    (seen (hs.reliable.written ps) (ht.reliable.written pt)).trans (written_inj hs ht),
    (seen (hs.reliable.writtenPairs ps) (ht.reliable.writtenPairs pt)).trans
      (writtenPairs_inj hs ht)⟩

/-- A tag is seen in the unambiguous form only. -/
theorem Shape.printed_faithfully_tagged :
    (Operation.displayed (.shape ⟨[5], [.unknown]⟩)).answer ⟨.off, [], [], []⟩
        = (Operation.displayed (.shape ⟨[5], [.batch]⟩)).answer ⟨.off, [], [], []⟩ ∧
      (Operation.written (.shape ⟨[5], [.unknown]⟩)).answer ⟨.off, [], [], []⟩
        ≠ (Operation.written (.shape ⟨[5], [.batch]⟩)).answer ⟨.off, [], [], []⟩ := by
  have printable : Decimal.Fit [5] := by decide
  obtain ⟨-, seen⟩ := printed_faithfully (s := ⟨[5], [.unknown]⟩) (t := ⟨[5], [.batch]⟩)
    (by decide) (by decide) ⟨.off, [], [], []⟩
  obtain ⟨-, displayed, written, -⟩ := seen printable printable
  exact ⟨displayed.mpr rfl, fun same => absurd (written.mp same).2 (by decide)⟩

end TensorShape

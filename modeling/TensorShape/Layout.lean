import TensorShape.Tag

/-! # Layouts and their spelling

A layout is the list of the tags of a shape, axis by axis.  It is spelled by one
letter per axis, as in `NCHW`.  `decode_encode` and `decode_eq_ok_iff` say that
decoding undoes encoding and accepts nothing else; a spelling that is refused is
refused at its first letter that spells no tag (`decode_eq_error_iff`). -/
namespace TensorShape

/-- The tags of the axes of a shape, first axis first. -/
abbrev Layout := List Tag

/-- A letter that spells no tag, and how many letters stand before it. -/
structure StrayLetter where
  position : Nat
  char : Char
  deriving DecidableEq, Repr

namespace Layout

/-- The letters of a layout. -/
def letters (layout : Layout) : List Char := layout.map Tag.char

/-- The spelling of a layout. -/
def encode (layout : Layout) : String := String.ofList (letters layout)

/-- Reads a layout off its letters, or finds the first letter that spells no tag. -/
def decode : List Char → Except StrayLetter Layout
  | [] => .ok []
  | c :: rest =>
    match Tag.ofChar? c with
    | none => .error ⟨0, c⟩
    | some tag =>
      match decode rest with
      | .ok tags => .ok (tag :: tags)
      | .error stray => .error ⟨stray.position + 1, stray.char⟩

@[simp] theorem decode_letters (layout : Layout) : decode (letters layout) = .ok layout := by
  induction layout with
  | nil => rfl
  | cons tag rest ih =>
    have : letters (tag :: rest) = tag.char :: letters rest := rfl
    simp [this, decode, ih]

theorem letters_of_decode {cs : List Char} {layout : Layout} (h : decode cs = .ok layout) :
    letters layout = cs := by
  induction cs generalizing layout with
  | nil => simp only [decode, Except.ok.injEq] at h; subst h; rfl
  | cons c rest ih =>
    unfold decode at h
    split at h
    · cases h
    · rename_i tag htag
      split at h
      · rename_i tags hrest
        cases h
        simp only [letters, List.map_cons, List.cons.injEq]
        exact ⟨Tag.ofChar?_eq_some_iff.mp htag, ih hrest⟩
      · cases h

theorem decode_eq_ok_iff {cs : List Char} {layout : Layout} :
    decode cs = .ok layout ↔ letters layout = cs :=
  ⟨letters_of_decode, fun h => h ▸ decode_letters layout⟩

/-- A spelling is refused at its first letter that spells no tag. -/
theorem decode_eq_error_iff {cs : List Char} {stray : StrayLetter} :
    decode cs = .error stray ↔ ∃ before after, cs = before ++ stray.char :: after ∧
      before.length = stray.position ∧ (∀ c ∈ before, ∃ tag, Tag.char tag = c) ∧
      ∀ tag, Tag.char tag ≠ stray.char := by
  constructor
  · intro h
    induction cs generalizing stray with
    | nil => cases h
    | cons c rest ih =>
      unfold decode at h
      split at h
      · rename_i unread
        cases h
        refine ⟨[], rest, rfl, rfl, nofun, fun tag same => ?_⟩
        cases unread.symm.trans (Tag.ofChar?_eq_some_iff.mpr same)
      · rename_i tag read
        split at h
        · cases h
        · rename_i later refused
          cases h
          obtain ⟨before, after, rfl, length, readable, unreadable⟩ := ih refused
          refine ⟨c :: before, after, rfl, congrArg Nat.succ length, ?_, unreadable⟩
          exact List.forall_mem_cons.mpr ⟨⟨tag, Tag.ofChar?_eq_some_iff.mp read⟩, readable⟩
  · obtain ⟨position, c⟩ := stray
    rintro ⟨before, after, rfl, rfl, readable, unreadable⟩
    induction before with
    | nil =>
      have unread : Tag.ofChar? c = none :=
        Option.eq_none_iff_forall_ne_some.mpr fun tag read =>
          unreadable tag (Tag.ofChar?_eq_some_iff.mp read)
      simp [decode, unread]
    | cons b before ih =>
      obtain ⟨⟨tag, rfl⟩, rest⟩ := List.forall_mem_cons.mp readable
      simp [decode, ih rest unreadable]

theorem decode_encode (layout : Layout) : decode (encode layout).toList = .ok layout := by
  simp [encode]

/-- The layout that says nothing about its axes. -/
def silent (rank : Nat) : Layout := List.replicate rank Tag.unknown

/-- Every axis is tagged with something it is for. -/
def isKnown (layout : Layout) : Bool := !layout.contains Tag.unknown

end Layout
end TensorShape

/-! # Blank text

A character is blank when it leaves no mark: the ASCII controls that move the
pen or separate records, and the spaces of every script.  A text is blank when
all its characters are, so the empty text is blank. -/
namespace TensorShape.Blank

/-- The code points of the blank characters, as closed ranges in order. -/
def ranges : List (Nat × Nat) :=
  [(0x09, 0x0d), (0x1c, 0x20), (0x85, 0x85), (0xa0, 0xa0), (0x1680, 0x1680), (0x2000, 0x200a),
    (0x2028, 0x2029), (0x202f, 0x202f), (0x205f, 0x205f), (0x3000, 0x3000)]

/-- A character that leaves no mark. -/
def isBlank (c : Char) : Bool := ranges.any fun r => r.1 ≤ c.toNat && c.toNat ≤ r.2

/-- A text without a character that leaves a mark. -/
def isBlankText (s : String) : Bool := s.toList.all isBlank

theorem isBlankText_eq_false_iff {s : String} :
    isBlankText s = false ↔ ∃ c ∈ s.toList, isBlank c = false := by
  simp [isBlankText]

end TensorShape.Blank

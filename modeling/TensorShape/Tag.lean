/-! # Axis tags

A tag says what an axis is for.  Every tag has a name and a one-letter spelling;
`ofChar?_eq_some_iff` says that reading a letter undoes writing it, so the seven
letters of `alphabet` are exactly the readable ones. -/
namespace TensorShape

/-- What an axis of a tensor is for. -/
inductive Tag where
  | batch
  | channel
  | depth
  | height
  | width
  | time
  | unknown
  deriving DecidableEq, Repr, Inhabited

namespace Tag

/-- All tags, in the order in which they are listed to the outside. -/
def all : List Tag := [batch, channel, depth, height, width, time, unknown]

/-- The one-letter spelling. -/
def char : Tag → Char
  | batch => 'N'
  | channel => 'C'
  | depth => 'D'
  | height => 'H'
  | width => 'W'
  | time => 'T'
  | unknown => '?'

/-- The name. -/
def name : Tag → String
  | batch => "BATCH"
  | channel => "CHANNEL"
  | depth => "DEPTH"
  | height => "HEIGHT"
  | width => "WIDTH"
  | time => "TIME"
  | unknown => "UNKNOWN"

/-- The tag spelled by a letter, if there is one. -/
def ofChar? (c : Char) : Option Tag := all.find? (·.char = c)

/-- The letters that spell tags. -/
def alphabet : String := String.ofList (all.map char)

@[simp] theorem ofChar?_char (t : Tag) : ofChar? t.char = some t := by
  cases t <;> rfl

theorem ofChar?_eq_some_iff {c : Char} {t : Tag} : ofChar? c = some t ↔ t.char = c := by
  refine ⟨fun h => ?_, fun h => h ▸ ofChar?_char t⟩
  simpa using List.find?_some h

theorem char_inj {t u : Tag} : t.char = u.char ↔ t = u := by
  refine ⟨fun h => ?_, fun h => h ▸ rfl⟩
  simpa using congrArg ofChar? h

theorem name_inj {t u : Tag} : t.name = u.name ↔ t = u := by
  refine ⟨fun h => ?_, fun h => h ▸ rfl⟩
  cases t <;> cases u <;> first | rfl | exact absurd h (by decide)

end Tag
end TensorShape

/-! # Sequences in print

The parts of a sequence are separated by a comma and a blank, and stand between
brackets.  The round brackets of a tuple take a comma after a lone part, which
tells a tuple of one from a part in brackets. -/
namespace TensorShape.Sequence

/-- The parts in order, a comma and a blank between each two of them. -/
def joined (parts : List String) : String := String.intercalate ", " parts

/-- The parts between round brackets. -/
def inRound (parts : List String) : String := "(" ++ joined parts ++ ")"

/-- The parts between square brackets. -/
def inSquare (parts : List String) : String := "[" ++ joined parts ++ "]"

/-- The parts between curly brackets. -/
def inCurly (parts : List String) : String := "\x7b" ++ joined parts ++ "\x7d"

/-- The parts as a tuple. -/
def asTuple : List String → String
  | [part] => "(" ++ part ++ ",)"
  | parts => inRound parts

end TensorShape.Sequence

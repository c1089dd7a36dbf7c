import LabelRaster.Dot
import LabelRaster.Lists
import LabelRaster.Text.Blank

/-!
# The leading integer of a field

Fields of real labels are often incomplete or carry trailing text, so a field is
read for the integer it starts with: blanks, at most one sign, then the longest
run of digits; what follows is ignored. Without a digit there is no integer.

The digits are added up under a ceiling above every position, so that a field of
any length is read in small numbers (`cappedValue_eq`); `leadingInt?` then gives
the nearest position.
-/

namespace LabelRaster.Decimal

/-- The value of an ASCII digit. -/
def digitValue (c : Char) : Nat := c.toNat - '0'.toNat

/-- The number that a run of digits writes. -/
def value (digits : List Char) : Nat :=
  digits.foldl (fun acc c => 10 * acc + digitValue c) 0

/-- The number that a run of digits writes, held at `cap` once it is reached. -/
def cappedValue (cap : Nat) (digits : List Char) : Nat :=
  digits.foldl (fun acc c => min (10 * acc + digitValue c) cap) 0

theorem foldl_capped (cap : Nat) (digits : List Char) (a b : Nat) (h : a = min b cap) :
    digits.foldl (fun acc c => min (10 * acc + digitValue c) cap) a =
      min (digits.foldl (fun acc c => 10 * acc + digitValue c) b) cap := by
  induction digits generalizing a b with
  | nil => exact h
  | cons c r ih => exact ih _ _ (by dsimp only; omega)

/-- Adding up under a ceiling gives the lesser of the exact value and the ceiling. -/
theorem cappedValue_eq (cap : Nat) (digits : List Char) :
    cappedValue cap digits = min (value digits) cap :=
  foldl_capped cap digits 0 0 (by omega)

/-- The ceiling under which a field's digits are added up. -/
def fieldCap : Nat := 4294967295

/-- A sign at the start of a field, as whether it is negative, and the rest. -/
def splitSign : List Char → Bool × List Char
  | '-' :: r => (true, r)
  | '+' :: r => (false, r)
  | cs => (false, cs)

/-- The integer at the start of a field, as the nearest position. -/
def leadingInt? (field : List Char) : Option Int :=
  let (negative, rest) := splitSign (Text.trimStart field)
  let digits := rest.takeWhile Char.isDigit
  if digits.isEmpty then none
  else
    let magnitude : Int := cappedValue fieldCap digits
    some (Dot.clamp (if negative then -magnitude else magnitude))

theorem toNat_bounds_of_isDigit {c : Char} (h : c.isDigit = true) : 48 ≤ c.toNat ∧ c.toNat ≤ 57 := by
  simp only [Char.isDigit, Bool.and_eq_true, decide_eq_true_eq, UInt32.le_iff_toNat_le] at h
  exact h

end LabelRaster.Decimal

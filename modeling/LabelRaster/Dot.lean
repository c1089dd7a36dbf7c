/-!
# Dots

Positions on a label are counted in printer dots and kept in 32 signed bits. A
sum that leaves the range stays at its end: `clamp` is the nearest position,
`add` the clamped sum. Unsigned quantities (heights, module widths) are natural
numbers; the largest a position can hold is `greatest`.
-/

namespace LabelRaster.Dot

/-- The leftmost or uppermost position. -/
def least : Int := -2147483648

/-- The rightmost or lowest position. -/
def greatest : Int := 2147483647

/-- The position nearest to `v`. -/
def clamp (v : Int) : Int := max least (min v greatest)

/-- The position nearest to the exact sum. -/
def add (a b : Int) : Int := clamp (a + b)

/-- Whether `v` is a position. -/
def Holds (v : Int) : Prop := least ≤ v ∧ v ≤ greatest

instance (v : Int) : Decidable (Holds v) := inferInstanceAs (Decidable (_ ∧ _))

/-- Whether `n` is a size that a position can hold. -/
def HoldsSize (n : Nat) : Prop := 0 < n ∧ (n : Int) ≤ greatest

instance (n : Nat) : Decidable (HoldsSize n) := inferInstanceAs (Decidable (_ ∧ _))

/-- A value in range is its own nearest position. -/
theorem clamp_of_mem {v : Int} (hl : least ≤ v) (hg : v ≤ greatest) : clamp v = v := by
  simp only [clamp, least, greatest] at *; omega

theorem least_le_clamp (v : Int) : least ≤ clamp v := by
  simp only [clamp, least, greatest]; omega

theorem clamp_le_greatest (v : Int) : clamp v ≤ greatest := by
  simp only [clamp, least, greatest]; omega

theorem holds_clamp (v : Int) : Holds (clamp v) := ⟨least_le_clamp v, clamp_le_greatest v⟩

theorem holds_add (a b : Int) : Holds (add a b) := holds_clamp (a + b)

theorem clamp_mono {a b : Int} (h : a ≤ b) : clamp a ≤ clamp b := by
  simp only [clamp, least, greatest]; omega

/-- A sum that stays in range is exact. -/
theorem add_of_mem {a b : Int} (hl : least ≤ a + b) (hg : a + b ≤ greatest) : add a b = a + b :=
  clamp_of_mem hl hg

end LabelRaster.Dot

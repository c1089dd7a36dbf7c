/-!
# Numbers row by row

Pixels, dots and cells that lie in rows of `w` are numbered row by row: the one in
column `x` of row `y` has number `y * w + x`, and its column and its row are told by
that number (`number_mod`, `number_div`).
-/

namespace LabelRaster.Rows

variable {w x : Nat}

theorem number_mod (hx : x < w) (y : Nat) : (y * w + x) % w = x := by
  rw [Nat.mul_comm, Nat.mul_add_mod, Nat.mod_eq_of_lt hx]

theorem number_div (hx : x < w) (y : Nat) : (y * w + x) / w = y := by
  have hw : 0 < w := by omega
  rw [Nat.mul_comm, Nat.mul_add_div hw, Nat.div_eq_of_lt hx, Nat.add_zero]

theorem number_lt_iff (hx : x < w) {y h : Nat} : y * w + x < w * h ↔ y < h := by
  have hw : 0 < w := by omega
  rw [Nat.mul_comm w, ← Nat.div_lt_iff_lt_mul hw, number_div hx]

/-- No two places have one number. -/
theorem number_inj (hx : x < w) {u : Nat} (hu : u < w) {y v : Nat} :
    y * w + x = v * w + u ↔ x = u ∧ y = v := by
  constructor
  · intro h
    have hmod := number_mod hx y
    have hdiv := number_div hx y
    rw [h, number_mod hu] at hmod
    rw [h, number_div hu] at hdiv
    exact ⟨hmod.symm, hdiv.symm⟩
  · rintro ⟨rfl, rfl⟩
    rfl

end LabelRaster.Rows

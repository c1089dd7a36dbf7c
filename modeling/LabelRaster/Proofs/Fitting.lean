import Mathlib.Algebra.Order.BigOperators.Group.List
import Mathlib.Algebra.Order.Ring.Nat
import Mathlib.Data.Set.Basic
import Mathlib.Order.Bounds.Defs
import LabelRaster.Proofs.Bars

/-!
# The width of a module

The modules of a barcode are made as wide as is asked for, as long as the estimate of
the barcode does not pass the limit, else as wide as it allows, but never narrower than
a dot. `le_fittedModuleWidth_iff` tells which widths are no wider than that one, and all
else follows from it. The estimate is exact for a character of seven binary digits and
too large for one of fewer, so it bounds what is drawn of them (`moduleCount_le`).
-/

namespace LabelRaster.Symbol.Bars

variable {content : String} {width : Nat}

/-- A width is reached by the fitted one if it is a single dot, or if it is asked for and keeps the
estimate within the limit. -/
theorem le_fittedModuleWidth_iff {f : Nat} :
    f ≤ fittedModuleWidth content width ↔
      f ≤ 1 ∨ f ≤ max width 1 ∧ 8 * content.length * f ≤ 560 := by
  rw [fittedModuleWidth, estimatedModules, maxWidth]
  generalize 8 * content.length = estimate
  have hwidth : 1 ≤ max width 1 := Nat.le_max_right ..
  generalize max width 1 = asked at hwidth
  split
  · rename_i hpast
    have hpos : 0 < estimate := Nat.pos_of_mul_pos_right (Nat.zero_lt_of_lt hpast)
    have hasked (h : estimate * f ≤ 560) : f ≤ asked :=
      Nat.le_of_lt (Nat.lt_of_mul_lt_mul_left (Nat.lt_of_le_of_lt h hpast))
    have hdiv : f ≤ 560 / estimate ↔ estimate * f ≤ 560 := by
      rw [Nat.le_div_iff_mul_le hpos, Nat.mul_comm]
    rw [le_max_iff, hdiv, or_comm, and_iff_right_of_imp hasked]
  · rename_i hwithin
    have hestimate (h : f ≤ asked) : estimate * f ≤ 560 :=
      Nat.le_trans (Nat.mul_le_mul_left _ h) (Nat.not_lt.1 hwithin)
    rw [and_iff_left_of_imp hestimate]
    omega

/-- Only a single dot may be too wide. -/
theorem estimate_le_or_eq_one (content : String) (width : Nat) :
    8 * content.length * fittedModuleWidth content width ≤ 560 ∨
      fittedModuleWidth content width = 1 :=
  (le_fittedModuleWidth_iff.1 (Nat.le_refl _)).symm.imp And.right fun hone =>
    Nat.le_antisymm hone (fittedModuleWidth_pos content width)

theorem fittedModuleWidth_anti {content' : String} {width' : Nat}
    (hcontent : content.length ≤ content'.length) (hwidth : width' ≤ width) :
    fittedModuleWidth content' width' ≤ fittedModuleWidth content width := by
  have hasked := fittedModuleWidth_le content' width'
  have hlength := Nat.mul_le_mul_right (fittedModuleWidth content' width')
    (Nat.mul_le_mul_left 8 hcontent)
  rw [le_fittedModuleWidth_iff]
  rcases estimate_le_or_eq_one content' width' with hestimate | hone
  · exact .inr ⟨by omega, Nat.le_trans hlength hestimate⟩
  · exact .inl (Nat.le_of_eq hone)

/-! ## The modules of a content -/

theorem length_charModules_le {c : Char} (h : c.toNat < 128) : (charModules c).length ≤ 8 := by
  have hlog : c.toNat.log2 < 7 := by
    by_cases hzero : c.toNat = 0
    · rw [hzero]
      decide
    · exact (Nat.log2_lt hzero).2 h
  rw [length_charModules]
  omega

theorem moduleCount_le (h : ∀ c ∈ content.toList, c.toNat < 128) :
    moduleCount content ≤ 8 * content.length := by
  have hsum := List.sum_le_card_nsmul (content.toList.map fun c => (charModules c).length) 8
    (List.forall_mem_map.2 fun c hc => length_charModules_le (h c hc))
  rwa [List.length_map, String.length_toList, Nat.nsmul_eq_mul, Nat.mul_comm,
    ← List.length_flatMap, ← modules, length_modules] at hsum

/-- Few characters of seven digits stay within the limit, however wide their modules were to be. -/
theorem moduleCount_mul_fittedModuleWidth_le (hlength : content.length ≤ 70)
    (h : ∀ c ∈ content.toList, c.toNat < 128) :
    moduleCount content * fittedModuleWidth content width ≤ 560 := by
  have hcount := Nat.mul_le_mul_right (fittedModuleWidth content width) (moduleCount_le h)
  refine Nat.le_trans hcount ?_
  rcases estimate_le_or_eq_one content width with hestimate | hone
  · exact hestimate
  · rw [hone]
    omega

/-! ## The best width -/

/-- The widths up to the one asked for at which the estimate stays within the limit. -/
def fittingWidths (content : String) (width : Nat) : Set Nat :=
  {f | 1 ≤ f ∧ f ≤ max width 1 ∧ 8 * content.length * f ≤ 560}

theorem fittedModuleWidth_mem (h : 8 * content.length * fittedModuleWidth content width ≤ 560) :
    fittedModuleWidth content width ∈ fittingWidths content width :=
  ⟨fittedModuleWidth_pos content width, fittedModuleWidth_le content width, h⟩

/-- The fitted width is the greatest one that is asked for and keeps the estimate within the limit,
or a single dot if there is none. It does not grow with the content, nor when less is asked for.
The estimate of fewer than 2^28 characters fits into 64 bits. A content of at most seventy
characters, none of more than seven binary digits, is drawn within the limit. -/
theorem fittedModuleWidth_isGreatest (content : String) (width : Nat) :
    ((fittingWidths content width).Nonempty →
      IsGreatest (fittingWidths content width) (fittedModuleWidth content width)) ∧
    (fittingWidths content width = ∅ → fittedModuleWidth content width = 1) ∧
    (∀ more, fittedModuleWidth (content ++ more) width ≤ fittedModuleWidth content width) ∧
    (∀ width' ≤ width, fittedModuleWidth content width' ≤ fittedModuleWidth content width) ∧
    (content.length < 268435456 → width ≤ 4294967295 →
      estimatedModules * content.length * max width 1 < 18446744073709551616) ∧
    (content.length ≤ 70 → (∀ c ∈ content.toList, c.toNat < 128) →
      moduleCount content * fittedModuleWidth content width ≤ 560) := by
  refine ⟨?_, fun hempty => ?_, fun more => ?_, fun width' => fittedModuleWidth_anti (Nat.le_refl _),
    fun hlength hwidth => ?_, moduleCount_mul_fittedModuleWidth_le⟩
  · rintro ⟨f, hf, -, hestimate⟩
    refine ⟨fittedModuleWidth_mem ?_, fun g hg => le_fittedModuleWidth_iff.2 (.inr hg.2)⟩
    rcases estimate_le_or_eq_one content width with hfit | hone
    · exact hfit
    · rw [hone]
      exact Nat.le_trans (Nat.mul_le_mul_left _ hf) hestimate
  · refine (estimate_le_or_eq_one content width).resolve_left fun hfit => ?_
    exact Set.eq_empty_iff_forall_notMem.1 hempty _ (fittedModuleWidth_mem hfit)
  · refine fittedModuleWidth_anti ?_ (Nat.le_refl _)
    rw [String.length_append]
    exact Nat.le_add_right ..
  · have hchars : estimatedModules * content.length < 2147483648 := by
      rw [estimatedModules]
      omega
    have hasked : max width 1 ≤ 4294967296 := by omega
    exact Nat.lt_of_lt_of_le (Nat.mul_lt_mul_of_lt_of_le hchars hasked (by decide)) (by decide)

/-- A content that is shrunk to fit, with four dots a module, and one that cannot be shrunk enough. -/
theorem fittedModuleWidth_isGreatest_shrunk :
    let content := "SF3293304552812"
    let long := String.ofList (List.replicate 71 '9')
    (fittingWidths content 5).Nonempty ∧ fittingWidths long 3 = ∅ ∧
      (content.length ≤ 70 ∧ ∀ c ∈ content.toList, c.toNat < 128) ∧
      IsGreatest (fittingWidths content 5) 4 ∧ fittedModuleWidth long 3 = 1 ∧
      fittedModuleWidth content 2 ≤ 4 ∧ moduleCount content * 4 ≤ 560 := by
  intro content long
  have hshort : (fittingWidths content 5).Nonempty := ⟨1, by decide, by decide, by decide⟩
  have hlong : fittingWidths long 3 = ∅ := by
    refine Set.eq_empty_iff_forall_notMem.2 fun f hf => ?_
    have hestimate : 8 * long.length = 568 := by decide
    obtain ⟨hpos, -, hle⟩ := hf
    rw [hestimate] at hle
    omega
  have hall : content.toList.all (·.toNat < 128) = true := by decide
  have hascii : ∀ c ∈ content.toList, c.toNat < 128 := fun c hc =>
    of_decide_eq_true (List.all_eq_true.1 hall c hc)
  have hfit : fittedModuleWidth content 5 = 4 := by decide
  obtain ⟨hgreatest, -, -, hwidth, -, hwithin⟩ := fittedModuleWidth_isGreatest content 5
  rw [hfit] at hgreatest hwidth hwithin
  exact ⟨hshort, hlong, ⟨by decide, hascii⟩, hgreatest hshort,
    (fittedModuleWidth_isGreatest long 3).2.1 hlong, hwidth 2 (by decide),
    hwithin (by decide) hascii⟩

end LabelRaster.Symbol.Bars

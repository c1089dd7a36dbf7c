import LabelRaster.Paint.Patches

/-!
# The modules of a barcode

A barcode spells its characters in base two. Its painter moves from one module to the
next and stops at the last position, where the modules that are left are drawn on top of
each other. A barcode that ends before that position has its modules side by side, each
in the place that its number tells (`patches_eq`).
-/

namespace LabelRaster

namespace Symbol.Bars

theorem binaryDigits_of_two_le {n : Nat} (h : 2 ≤ n) :
    binaryDigits n = binaryDigits (n / 2) ++ [n.testBit 0] := by
  have hlog : n.log2 = (n / 2).log2 + 1 := by rw [Nat.log2_def, if_pos h]
  rw [binaryDigits, hlog, List.range_succ_eq_map, List.reverse_cons, List.map_append,
    ← List.map_reverse, List.map_map]
  simp only [Function.comp_def, Nat.testBit_succ]
  rfl

/-- The digits of a number are those that it is written with in base two. -/
theorem binaryDigits_eq (n : Nat) : binaryDigits n = (Nat.toDigits 2 n).map (· == '1') := by
  induction n using Nat.strongRecOn with
  | ind n ih =>
    by_cases h : 2 ≤ n
    · have hdigit : n.testBit 0 = ((n % 2).digitChar == '1') := by
        rcases Nat.mod_two_eq_zero_or_one n with h | h <;> simp [h, Nat.digitChar]
      rw [binaryDigits_of_two_le h, ih _ (by omega), hdigit,
        Nat.toDigits_of_base_le (by decide) h, List.map_append]
      rfl
    · obtain rfl | rfl : n = 0 ∨ n = 1 := by omega
      · rfl
      · rfl

/-- Each character is written in base two and ends with a light module. -/
theorem modules_eq (content : String) :
    modules content = content.toList.flatMap fun c =>
      (Nat.toDigits 2 c.toNat).map (· == '1') ++ [false] := by
  simp only [← binaryDigits_eq]
  rfl

theorem fittedModuleWidth_pos (content : String) (width : Nat) :
    0 < fittedModuleWidth content width := by
  simp only [fittedModuleWidth]
  split <;> omega

/-- A module is never made wider than it was asked to be. -/
theorem fittedModuleWidth_le (content : String) (width : Nat) :
    fittedModuleWidth content width ≤ max width 1 := by
  simp only [fittedModuleWidth]
  split
  · rename_i h
    have hdiv : maxWidth / (estimatedModules * content.length) ≤ max width 1 :=
      Nat.div_le_of_le_mul (Nat.le_of_lt h)
    omega
  · exact Nat.le_refl _

/-- A content is drawn with narrow modules, unless it has none. -/
theorem fittedModuleWidth_le_maxWidth {content : String} (h : modules content ≠ []) (width : Nat) :
    fittedModuleWidth content width ≤ maxWidth := by
  have hlength : 0 < content.length := by
    rw [← String.length_toList, List.length_pos_iff]
    intro hnil
    exact h (by rw [modules, hnil, List.flatMap_nil])
  have hpos : 0 < estimatedModules * content.length := Nat.mul_pos (by decide) hlength
  simp only [fittedModuleWidth]
  split
  · have : maxWidth / (estimatedModules * content.length) ≤ maxWidth := Nat.div_le_self ..
    have : 1 ≤ maxWidth := by decide
    omega
  · have : max width 1 ≤ estimatedModules * content.length * max width 1 :=
      Nat.le_mul_of_pos_left _ hpos
    omega

end Symbol.Bars

namespace BarField

/-- Where the last module of a barcode ends, if nothing stops it. -/
def rightEnd (b : BarField) : Int :=
  b.origin.x + Symbol.Bars.moduleCount b.content *
    Symbol.Bars.fittedModuleWidth b.content b.moduleWidth

/-- A barcode is drawn no wider than with the modules that it asks for. -/
theorem rightEnd_le (b : BarField) (h : 1 ≤ b.moduleWidth) :
    b.rightEnd ≤
      b.origin.x + (Symbol.Bars.moduleCount b.content * b.moduleWidth : Nat) := by
  have hfit := Symbol.Bars.fittedModuleWidth_le b.content b.moduleWidth
  have := Nat.mul_le_mul_left (Symbol.Bars.moduleCount b.content)
    (Nat.le_trans hfit (Nat.max_le.2 ⟨Nat.le_refl _, h⟩))
  rw [rightEnd, ← Int.natCast_mul]
  omega

/-- The patch of the module at a place in a row of modules `step` dots wide. -/
def modulePatch (x y step height : Int) (i : Nat) : Patch :=
  ⟨Rect.sized (x + step * i) y step height, .black⟩

/-- Modules that do not pass the last position are painted side by side. -/
theorem patchesFrom_eq {y step height : Int} (hstep : 0 ≤ step) {ms : List Bool} {x : Int}
    (hl : Dot.least ≤ x) (hg : x + step * ms.length ≤ Dot.greatest) :
    patchesFrom y step height ms x =
      ((List.range ms.length).filter (ms[·]? = some true)).map (modulePatch x y step height) := by
  have hsucc (n : Nat) : step * (n + 1 : Nat) = step * n + step := by
    rw [Int.natCast_add, Int.mul_add, Int.natCast_one, Int.mul_one]
  induction ms generalizing x with
  | nil => rfl
  | cons m ms ih =>
    have hrest : 0 ≤ step * ms.length := Int.mul_nonneg hstep (Int.natCast_nonneg _)
    rw [List.length_cons, hsucc] at hg
    have hadd : Dot.add x step = x + step := Dot.add_of_mem (by omega) (by omega)
    -- A place counted from the second module is the next one counted from the first.
    have hnext : modulePatch (x + step) y step height = modulePatch x y step height ∘ Nat.succ := by
      funext i
      have hx : x + step + step * i = x + step * (i + 1 : Nat) := by
        rw [hsucc]
        omega
      simp only [modulePatch, Function.comp_apply, hx]
    have hms := ih (x := x + step) (by omega) (by omega)
    rw [hnext, ← List.map_map] at hms
    rw [List.length_cons, List.range_succ_eq_map, List.filter_cons, List.filter_map]
    cases m with
    | false =>
      rw [patchesFrom, hadd, hms]
      rfl
    | true =>
      have hfirst : modulePatch x y step height 0 = ⟨Rect.sized x y step height, .black⟩ := by
        rw [modulePatch, Int.natCast_zero, Int.mul_zero, Int.add_zero]
      rw [patchesFrom, hadd, hms, ← hfirst]
      rfl

/-- A barcode that ends on the label has its dark modules side by side, at the fitted width. -/
theorem patches_eq {b : BarField} (hl : Dot.least ≤ b.origin.x) (hg : b.rightEnd ≤ Dot.greatest) :
    b.patches =
      ((List.range (Symbol.Bars.moduleCount b.content)).filter
        ((Symbol.Bars.modules b.content)[·]? = some true)).map
          (modulePatch b.origin.x b.origin.y
            (Symbol.Bars.fittedModuleWidth b.content b.moduleWidth)
            (min (b.height : Int) Dot.greatest)) := by
  have hlen := Symbol.Bars.length_modules b.content
  by_cases hnil : Symbol.Bars.modules b.content = []
  · rw [patches, ← hlen, hnil]
    rfl
  · have hfit := Symbol.Bars.fittedModuleWidth_le_maxWidth hnil b.moduleWidth
    have hstep : min (Symbol.Bars.fittedModuleWidth b.content b.moduleWidth : Int) Dot.greatest =
        Symbol.Bars.fittedModuleWidth b.content b.moduleWidth := by
      simp only [Symbol.Bars.maxWidth, Dot.greatest] at hfit ⊢
      omega
    rw [rightEnd, ← hlen, Int.mul_comm] at hg
    rw [patches, hstep, ← hlen]
    exact patchesFrom_eq (Int.natCast_nonneg _) hl hg

end BarField

end LabelRaster

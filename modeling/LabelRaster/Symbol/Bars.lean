/-!
# Linear barcodes

A barcode is drawn schematically: each character is its code point in binary,
the most significant digit first, followed by one light module. `modules` is the
pattern, `moduleCount` its length.

The width of a module is reduced for contents that would grow too wide. The
reduction estimates the pattern at eight modules a character.
-/

namespace LabelRaster.Symbol.Bars

/-- The binary digits of `n`, the most significant first; zero has one digit. -/
def binaryDigits (n : Nat) : List Bool := (List.range (n.log2 + 1)).reverse.map n.testBit

/-- The modules of one character; `true` is dark. -/
def charModules (c : Char) : List Bool := binaryDigits c.toNat ++ [false]

/-- The modules of a content. -/
def modules (content : String) : List Bool := content.toList.flatMap charModules

/-- The number of modules of a content. -/
def moduleCount (content : String) : Nat :=
  (content.toList.map fun c => c.toNat.log2 + 2).foldr (· + ·) 0

theorem length_charModules (c : Char) : (charModules c).length = c.toNat.log2 + 2 := by
  simp [charModules, binaryDigits]

/-- The modules are counted without building the pattern. -/
theorem length_modules (content : String) : (modules content).length = moduleCount content := by
  simp [modules, moduleCount, List.length_flatMap, length_charModules, List.sum]

/-- The number of modules that a character is estimated at. -/
def estimatedModules : Nat := 8

/-- The width, in dots, that a barcode's estimate may not pass. -/
def maxWidth : Nat := 560

/-- The module width that a content is drawn with when `width` is asked for. -/
def fittedModuleWidth (content : String) (width : Nat) : Nat :=
  let estimate := estimatedModules * content.length
  if estimate * max width 1 > maxWidth then max (maxWidth / estimate) 1 else max width 1

end LabelRaster.Symbol.Bars

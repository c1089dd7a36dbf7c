import LabelRaster.Glyph.Large
import LabelRaster.Glyph.Medium
import LabelRaster.Glyph.Small

/-!
# Glyph sizes

The built-in face is drawn in three sizes. A text is painted from the smallest
size that is at least as tall as the text, or from the largest.
-/

namespace LabelRaster.Glyph

/-- The sizes that the built-in face is drawn in. -/
inductive Source where
  | small
  | medium
  | large
deriving DecidableEq, Repr

namespace Source

/-- The size that a text of the given height is painted from. -/
def forHeight (height : Nat) : Source :=
  if height ≤ 12 then small else if height ≤ 16 then medium else large

/-- The number of columns of a glyph. -/
def width : Source → Nat
  | small => 6
  | medium => 8
  | large => 12

/-- The number of rows of a glyph. -/
def height : Source → Nat
  | small => 12
  | medium => 16
  | large => 24

/-- The number of bits that a row takes in the table. -/
def stride : Source → Nat
  | small => 8
  | medium => 8
  | large => 12

/-- The glyphs by code point. -/
def glyphs : Source → Array (Nat × Nat)
  | small => smallGlyphs
  | medium => mediumGlyphs
  | large => largeGlyphs

theorem width_pos (s : Source) : 0 < s.width := by cases s <;> decide

theorem height_pos (s : Source) : 0 < s.height := by cases s <;> decide

/-- The glyph of a character, if it has one in this size. -/
def glyph? (s : Source) (c : Char) : Option Nat :=
  (s.glyphs.find? fun entry => entry.1 == c.toNat).map Prod.snd

/-- Whether a pixel of a glyph is on. -/
def isOn (s : Source) (glyph column row : Nat) : Bool :=
  glyph.testBit ((s.height - 1 - row) * s.stride + (s.width - 1 - column))

end Source

end LabelRaster.Glyph

/-!
# Colours

A pixel has four channels of eight bits: red, green, blue and opacity. Ink is
laid over a pixel with a coverage between 0 and 1, which moves the three colours
towards the ink's and the opacity towards full.
-/

namespace LabelRaster

/-- A colour with opacity. -/
structure Color where
  red : UInt8
  green : UInt8
  blue : UInt8
  alpha : UInt8
deriving DecidableEq, Repr, Inhabited

namespace Color

/-- Opaque black. -/
def black : Color := ⟨0, 0, 0, 255⟩

/-- Opaque white. -/
def white : Color := ⟨255, 255, 255, 255⟩

/-- No colour and no opacity. -/
def clear : Color := ⟨0, 0, 0, 0⟩

/-- The four channels in order. -/
def bytes (c : Color) : List UInt8 := [c.red, c.green, c.blue, c.alpha]

/-- A channel moved from `old` towards `new` by the share `coverage`. -/
def mix (old new : UInt8) (coverage : Float32) : UInt8 :=
  let from32 (b : UInt8) : Float32 := Float32.ofNat b.toNat
  (from32 old + (from32 new - from32 old) * coverage).round.toUInt8

/-- The colour after ink is laid over it with a coverage. -/
def blend (ink : Color) (coverage : Float32) (under : Color) : Color :=
  ⟨mix under.red ink.red coverage, mix under.green ink.green coverage,
    mix under.blue ink.blue coverage, mix under.alpha 255 coverage⟩

end Color

end LabelRaster

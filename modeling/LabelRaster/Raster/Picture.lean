import LabelRaster.Raster.Color

/-!
# Pictures

A picture is a rectangle of pixels, row by row.
-/

namespace LabelRaster

/-- A rectangle of pixels. -/
structure Picture where
  width : Nat
  height : Nat
  /-- The pixels row by row. -/
  pixels : Array Color
  size_eq : pixels.size = width * height
deriving DecidableEq, Repr

namespace Picture

/-- The pixel in column `x` and row `y`. -/
def get? (p : Picture) (x y : Nat) : Option Color :=
  if x < p.width ∧ y < p.height then p.pixels[y * p.width + x]? else none

/-- The picture whose pixel in column `x` and row `y` is `f x y`. -/
def tabulate (width height : Nat) (f : Nat → Nat → Color) : Picture where
  width := width
  height := height
  pixels := Array.ofFn fun i : Fin (width * height) => f (i % width) (i / width)
  size_eq := by simp

/-- The bytes of all pixels. -/
def bytes (p : Picture) : List UInt8 := p.pixels.toList.flatMap Color.bytes

end Picture

end LabelRaster

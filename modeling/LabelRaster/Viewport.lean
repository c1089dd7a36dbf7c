import LabelRaster.Dot
import LabelRaster.Raster.Rect

/-!
# Viewports

How a label is laid on its canvas and shown: the canvas size in dots, the offset
that is added to every position, and the scale for showing the finished picture.
The scale never changes what is painted.
-/

namespace LabelRaster

/-- How a label is laid on its canvas and shown. -/
structure Viewport where
  /-- The width of the canvas, in dots. -/
  width : Nat
  /-- The height of the canvas, in dots. -/
  height : Nat
  offset : Point
  scale : Float

namespace Viewport

/-- The longest side of a canvas, in dots. -/
def greatestSide : Nat := 32767

/-- A side rounded to whole dots, if a canvas can have it. -/
def side? (length : Float) : Option Nat :=
  let n := length.round.toUInt32.toNat
  if length.isFinite ∧ 0.0 < length ∧ 1 ≤ n ∧ n ≤ greatestSide then some n else none

/-- A side has at least one dot and at most `greatestSide`. -/
theorem side?_bounds {length : Float} {n : Nat} (h : side? length = some n) :
    1 ≤ n ∧ n ≤ greatestSide := by
  simp only [side?, Option.ite_none_right_eq_some, Option.some.injEq] at h
  omega

/-- The viewport of a canvas of the given size, if there can be one. -/
def ofLengths? (width height : Float) : Option Viewport := do
  return { width := ← side? width, height := ← side? height, offset := ⟨0, 0⟩, scale := 1.0 }

/-- The viewport with the content in the middle of the canvas, if the content is narrower. -/
def centredOn (v : Viewport) (content : Option Rect) : Viewport :=
  match content with
  | some r =>
    if r.width < v.width then
      { v with offset := ⟨Dot.clamp ((v.width - r.width) / 2 - r.left), v.offset.y⟩ }
    else v
  | none => v

/-- The scale that takes a side to at most `most` pixels. -/
def ratio (most side : Nat) : Float := Float.ofNat most / Float.ofNat side

/-- The lesser of two floats; one that is no number does not count. -/
def lesser (a b : Float) : Float := if a < b ∨ b.isNaN then a else b

/-- The viewport with the greatest scale up to one at which the picture fits. -/
def fitTo (v : Viewport) (maxWidth maxHeight : Nat) : Viewport :=
  let scale := lesser (lesser (ratio maxWidth v.width) (ratio maxHeight v.height)) 1.0
  { v with scale := if 0.0 < scale then scale else 1.0 }

/-- A side as it is shown: at least one pixel. -/
def shownSide (v : Viewport) (side : Nat) : Nat :=
  max (Float.ofNat side * v.scale).round.toUInt32.toNat 1

/-- The width in which the picture is shown. -/
def shownWidth (v : Viewport) : Nat := v.shownSide v.width

/-- The height in which the picture is shown. -/
def shownHeight (v : Viewport) : Nat := v.shownSide v.height

end Viewport

end LabelRaster

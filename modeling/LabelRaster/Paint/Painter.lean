import LabelRaster.Paint.Lettering
import LabelRaster.Paint.Patches
import LabelRaster.Raster.Picture

/-!
# Painting a label

A painter covers the whole canvas with its background, moves by the viewport's
offset and paints the elements in order.
-/

namespace LabelRaster

/-- What a label is painted with. -/
structure Painter where
  /-- Encodes the contents of matrix symbols. -/
  generator : Symbol.Generator
  face : Face
  background : Color

namespace Painter

/-- Paints one element. -/
def paint (painter : Painter) (c : Canvas) : Element → Canvas
  | .text t => c.paintText painter.face t
  | .box b => c.paint b.patches
  | .bars b => c.paint b.patches
  | .matrix m => c.paint (m.patches painter.generator)
  | .picture p =>
    if p.width ≤ 0 ∨ p.height ≤ 0 ∨ p.data.isEmpty then c
    else c.stamp p.origin.x p.origin.y p.width.toNat p.height.toNat p.data

/-- Whether a canvas can have a side. -/
def canHave (side : Nat) : Bool := 1 ≤ side && side ≤ Viewport.greatestSide

/-- The canvas that the elements are painted on. -/
def canvas (painter : Painter) (v : Viewport) : Canvas :=
  ((Canvas.blank v.width v.height).flood painter.background).translate v.offset.x v.offset.y

/-- The picture of a document; none if the canvas would be empty or too large. -/
def render (painter : Painter) (d : Document) (v : Viewport) : Option Picture :=
  if canHave v.width && canHave v.height then
    some (d.elements.foldl painter.paint (painter.canvas v)).picture
  else none

end Painter

end LabelRaster

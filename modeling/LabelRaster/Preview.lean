import LabelRaster.Paint.Painter
import LabelRaster.Raster.Resize
import LabelRaster.Settings.Basic
import LabelRaster.Symbol.Qr.Encoder

/-!
# Previews

A preview of a label text: what the text says, how it was laid on its canvas, and
the picture. The size of the label follows from the settings, and where they
leave it open, from the text; there matrix symbols count with the size that the
built-in encoder gives them.
-/

namespace LabelRaster

/-- A label as it was painted. -/
structure Preview where
  document : Document
  viewport : Viewport
  picture : Picture

namespace Preview

/-- The viewport of a document; none if the label has no size that a canvas can have. -/
def viewport? (d : Document) (settings : Settings) (generator : Symbol.Generator) :
    Option Viewport := do
  let (width, height) := settings.logicalSize (Symbol.Qr.generator .low) d
  let v ← Viewport.ofLengths? width height
  let v := if settings.centred then v.centredOn (contentBounds? generator d.elements) else v
  return v.fitTo settings.maxWidth settings.maxHeight

/-- The preview of a label text with a painter; the background of the settings plays no part. -/
def ofTextWith? (text : String) (settings : Settings) (painter : Painter) : Option Preview := do
  let document := Document.ofText text
  let viewport ← viewport? document settings painter.generator
  let picture ← painter.render document viewport
  return { document, viewport, picture }

/-- The preview of a label text in the built-in face and with the built-in encoder. -/
def ofText? (text : String) (settings : Settings) : Option Preview :=
  ofTextWith? text settings ⟨Symbol.Qr.generator .low, .bitmap, settings.background⟩

/-- The picture in the size in which it is shown. -/
def shown (p : Preview) : Picture := p.picture.resize p.viewport.shownWidth p.viewport.shownHeight

end Preview

end LabelRaster

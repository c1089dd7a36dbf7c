import LabelRaster.Label.Extent
import LabelRaster.Label.Layout

/-!
# The size of a label

A label is as wide as it declares; without a declaration it reaches to the right
end of its content, and it always reaches down to the lower end of it. A label
with nothing to the right of or below its corner has a default size.
-/

namespace LabelRaster

/-- A size in dots. -/
structure Size where
  width : Nat
  height : Nat
deriving DecidableEq, Repr, Inhabited

namespace Size

/-- The size of a label that neither declares a width nor has content. -/
def default : Size := ⟨596, 900⟩

end Size

namespace Document

/-- How far the content reaches along an axis, if it passes the corner of the label. -/
def reach? (generator : Symbol.Generator) (d : Document) (far : Rect → Int) : Option Nat :=
  (((contentBounds? generator d.elements).map far).filter (0 < ·)).map Int.toNat

/-- The size of a document's label. -/
def size (generator : Symbol.Generator) (d : Document) : Size where
  width := (d.labelWidth.or (d.reach? generator Rect.right)).getD Size.default.width
  height := (d.reach? generator Rect.bottom).getD Size.default.height

end Document

end LabelRaster

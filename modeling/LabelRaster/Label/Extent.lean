import LabelRaster.Dot
import LabelRaster.Label.Element
import LabelRaster.Symbol.Bars
import LabelRaster.Symbol.Grid

/-!
# Extents

The size of a label that does not declare one, and the centring of its content,
follow from an estimate of what each element covers: its `extent` from its
origin, the rectangle `bounds` that it spans, and the least rectangle
`contentBounds` around all of them. A matrix symbol that the generator refuses
covers nothing.
-/

namespace LabelRaster

namespace Element

/-- A length in dots, as far as a position can hold it. -/
def capped (n : Nat) : Int := min (n : Int) Dot.greatest

/-- The width of a text: three fifths of its height a character, rounded up. -/
def textWidth (chars height : Nat) : Nat := (3 * (chars * height) + 4) / 5

/-- The width and the height that an element is estimated at. -/
def extent? (generator : Symbol.Generator) : Element → Option (Int × Int)
  | text f => some (capped (textWidth f.content.length f.height), capped f.height)
  | box f => some (f.width, f.height)
  | bars f =>
    some (capped (Symbol.Bars.moduleCount f.content * f.moduleWidth), capped f.height)
  | matrix f =>
    match f.side? with
    | some side => some (capped side, capped side)
    | none =>
      match generator f.content with
      | .ok grid => some (capped (grid.side * f.dotSize), capped (grid.side * f.dotSize))
      | .error _ => none
  | picture f => some (f.width, f.height)

/-- The rectangle that an element is estimated to cover. -/
def bounds? (generator : Symbol.Generator) (e : Element) : Option Rect :=
  (e.extent? generator).map fun (width, height) =>
    Rect.ofCorners e.origin ⟨Dot.add e.origin.x width, Dot.add e.origin.y height⟩

/-- No rectangle of an element is inverted, whatever the signs of its extent. -/
theorem left_le_right_of_bounds {generator : Symbol.Generator} {e : Element} {r : Rect}
    (h : e.bounds? generator = some r) : r.left ≤ r.right := by
  obtain ⟨⟨w, v⟩, -, rfl⟩ := Option.map_eq_some_iff.1 h
  simp only [Rect.ofCorners]; omega

theorem top_le_bottom_of_bounds {generator : Symbol.Generator} {e : Element} {r : Rect}
    (h : e.bounds? generator = some r) : r.top ≤ r.bottom := by
  obtain ⟨⟨w, v⟩, -, rfl⟩ := Option.map_eq_some_iff.1 h
  simp only [Rect.ofCorners]; omega

end Element

/-- The least rectangle around some rectangles, if there is one at all. -/
def Rect.hull? : List Rect → Option Rect
  | [] => none
  | r :: rs => some (rs.foldl Rect.union r)

/-- The least rectangle around what the elements cover. -/
def contentBounds? (generator : Symbol.Generator) (elements : List Element) : Option Rect :=
  Rect.hull? (elements.filterMap (Element.bounds? generator))

end LabelRaster

import LabelRaster.Face.Ink
import LabelRaster.Outline.Contour
import LabelRaster.Outline.Coverage

/-!
# Lines in an outline face

A font's letters are scaled so that its ascender and descender are as far apart
as the line is tall. Each glyph is drawn in the smallest box of pixels around it,
and what lies in the window of the line is added to the ink.
-/

namespace LabelRaster.Outline

/-- A glyph and the place where the pen draws it. -/
structure Drawn where
  glyph : Nat
  pen : Float32

/-- A line of glyphs. -/
structure Line where
  glyphs : List Drawn
  /-- The number of pixels to a unit of the font. -/
  scale : Float32
  /-- How far the base line is below the top of the line. -/
  ascent : Float32
  width : Nat
  height : Nat

namespace Line

/-- The places of glyphs drawn one after the other, and where the pen is in the end. -/
def draw (font : Font) (scale : Float32) : List Nat → Float32 → List Drawn × Float32
  | [], pen => ([], pen)
  | g :: gs, pen =>
    let (drawn, stop) := draw font scale gs (pen + scale * Float32.ofNat (font.advance g))
    (⟨g, pen⟩ :: drawn, stop)

/-- A text as a line of the given height. -/
def ofText (font : Font) (text : String) (height : Nat) : Line :=
  let ascender := Float32.ofInt font.ascender
  let descender := Float32.ofInt font.descender
  let scale := Float32.ofNat height / (ascender - descender)
  let (glyphs, pen) := draw font scale (text.toList.map font.glyph) 0.0
  { glyphs, scale
    ascent := scale * ascender
    width := natural pen.ceil
    height := max (natural (scale * ascender - scale * descender).ceil) 1 }

end Line

/-- A box in the plane. -/
structure Box where
  left : Float32
  low : Float32
  right : Float32
  high : Float32

namespace Box

/-- The least box around some places. -/
def around? : List Position → Option Box
  | [] => none
  | p :: ps => some (ps.foldl (fun b q =>
      ⟨lesser b.left q.x, lesser b.low q.y, greater b.right q.x, greater b.high q.y⟩)
      ⟨p.x, p.y, p.x, p.y⟩)

/-- A box in whole units, if a font's numbers can hold it and it has an area. -/
def whole? (b : Box) : Option Box :=
  let t : Box := ⟨truncate b.left, truncate b.low, truncate b.right, truncate b.high⟩
  if -32768.0 ≤ t.left ∧ t.left < t.right ∧ t.right ≤ 32767.0 ∧
      -32768.0 ≤ t.low ∧ t.low < t.high ∧ t.high ≤ 32767.0 then
    some t
  else none

/-- The least box of pixels around a box in the font's units, drawn at a place; its `low` is the
upper end. -/
def pixels (b : Box) (scale : Float32) (place : Position) : Box :=
  let dx := truncate place.x
  let dy := truncate place.y
  let fx := place.x - dx
  let fy := place.y - dy
  ⟨(b.left * scale + fx).floor + dx, (b.high * -scale + fy).floor + dy,
    (b.right * scale + fx).ceil + dx, (b.low * -scale + fy).ceil + dy⟩

end Box

/-- Adds a glyph of a line to its ink. -/
def addGlyph (font : Font) (line : Line) (ink : Ink) (g : Drawn) : Ink :=
  let glyph : Option (List Move × Box) := do
    let moves ← font.moves? g.glyph
    return (moves, ← (← Box.around? (moves.flatMap Move.positions)).whole?)
  match glyph with
  | none => ink
  | some (moves, box) =>
    let place : Position := ⟨g.pen, line.ascent⟩
    let b := box.pixels line.scale place
    let left := b.left.toInt64.toInt
    let top := b.low.toInt64.toInt
    let w := ink.window
    if b.right.toInt64.toInt ≤ w.left ∨ (w.right : Int) ≤ left ∨
        b.high.toInt64.toInt ≤ w.top ∨ (w.bottom : Int) ≤ top then ink
    else
      let moved (p : Position) : Position :=
        ⟨p.x * line.scale + (place.x - b.left), p.y * -line.scale + (place.y - b.low)⟩
      let curves := Curve.ofMoves ⟨0.0, 0.0⟩ none (moves.map (Move.map moved))
      let coverage := curves.foldl Coverage.addCurve
        (Coverage.empty (natural (b.right - b.left)) (natural (b.high - b.low)))
      coverage.addTo left top ink

/-- The ink of a window of a line, whether or not a buffer takes it. -/
def lineInk (font : Font) (text : String) (height : Nat) (window : Window) : Ink :=
  let line := Line.ofText font text height
  line.glyphs.foldl (addGlyph font line) (Ink.clear (window.within line.width line.height))

/-- The ink of a window of a line; none if no buffer takes what the line has in the window. -/
def rasterize? (font : Font) (text : String) (height : Nat) (window : Window) : Option Ink := do
  let line := Line.ofText font text height
  let blank ← Ink.blank? (window.within line.width line.height)
  return line.glyphs.foldl (addGlyph font line) blank

/-- An outline face needs a buffer for its window as the built-in one does, and nothing else. -/
theorem rasterize?_eq (font : Font) (text : String) (height : Nat) (window : Window) :
    rasterize? font text height window =
      if (window.within (Line.ofText font text height).width
          (Line.ofText font text height).height).Fits then
        some (lineInk font text height window)
      else none := by
  simp only [rasterize?, Ink.blank?_eq]
  split <;> rfl

end LabelRaster.Outline

import LabelRaster.Face.Bitmap
import LabelRaster.Outline.Line

/-!
# Faces

Text is drawn in the built-in face or in the outlines of a font. A window of a line
is drawn just if a buffer takes it (`rasterize?_eq_none_iff`).
-/

namespace LabelRaster

/-- What letters look like. -/
inductive Face where
  /-- The built-in face. -/
  | bitmap
  /-- The outlines of a font. -/
  | outline (font : Outline.Font)

namespace Face

/-- The width and the height of a line of text that is asked to be `height` dots tall. -/
def lineSize (face : Face) (text : String) (height : Nat) : Nat × Nat :=
  let height := BitmapFace.lineHeight height
  match face with
  | bitmap => (BitmapFace.lineWidth text height, height)
  | outline font =>
    let line := Outline.Line.ofText font text height
    (line.width, line.height)

/-- The ink of a window of a line of text, whether or not a buffer takes it. -/
def lineInk (face : Face) (text : String) (height : Nat) (window : Window) : Ink :=
  match face with
  | bitmap => BitmapFace.lineInk text height window
  | outline font => Outline.lineInk font text (BitmapFace.lineHeight height) window

/-- The ink of a whole line of text. -/
def wholeInk (face : Face) (text : String) (height : Nat) : Ink :=
  let (width, lineHeight) := face.lineSize text height
  face.lineInk text height (.whole width lineHeight)

/-- The ink of a window of a line of text, and the glyphs that have been read once it is drawn; none
if no buffer takes what the line has in the window. -/
def rasterize? (face : Face) (cache : Glyph.Cache) (text : String) (height : Nat)
    (window : Window) : Option (Ink × Glyph.Cache) :=
  match face with
  | bitmap => BitmapFace.rasterize? cache text height window
  | outline font =>
    (Outline.rasterize? font text (BitmapFace.lineHeight height) window).map (·, cache)

/-- Whether a buffer takes what a line of text has in a window. -/
def Fits (face : Face) (text : String) (height : Nat) (window : Window) : Prop :=
  (window.within (face.lineSize text height).1 (face.lineSize text height).2).Fits

variable {face : Face} {cache : Glyph.Cache} {text : String} {height : Nat} {window : Window}

/-- What fits a buffer is drawn, and what was read before does not show. -/
theorem exists_rasterize?_eq_lineInk (hcache : cache.IsFaithful)
    (hfits : face.Fits text height window) :
    ∃ cache', face.rasterize? cache text height window =
        some (face.lineInk text height window, cache') ∧ cache'.IsFaithful := by
  cases face with
  | bitmap => exact BitmapFace.exists_rasterize?_eq_lineInk hcache hfits
  | outline font =>
    have hdraw : Outline.rasterize? font text (BitmapFace.lineHeight height) window =
        some (Outline.lineInk font text (BitmapFace.lineHeight height) window) :=
      (Outline.rasterize?_eq ..).trans (if_pos hfits)
    exact ⟨cache, congrArg (Option.map (·, cache)) hdraw, hcache⟩

/-- Nothing but the size of the window makes drawing fail. -/
theorem rasterize?_eq_none_iff (hcache : cache.IsFaithful) :
    face.rasterize? cache text height window = none ↔ ¬ face.Fits text height window := by
  constructor
  · intro hnone hfits
    obtain ⟨cache', hdraw, -⟩ := exists_rasterize?_eq_lineInk hcache hfits
    rw [hnone] at hdraw
    cases hdraw
  · intro hfits
    cases face with
    | bitmap => exact BitmapFace.rasterize?_eq_none hfits cache
    | outline font =>
      have hnone : Outline.rasterize? font text (BitmapFace.lineHeight height) window = none :=
        (Outline.rasterize?_eq ..).trans (if_neg hfits)
      exact congrArg (Option.map (·, cache)) hnone

end Face

end LabelRaster

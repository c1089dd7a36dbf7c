import LabelRaster.Face.Basic
import LabelRaster.Label.Element
import LabelRaster.Raster.Canvas
import LabelRaster.Viewport

/-!
# Painting text

The ink of a line is turned around the origin of the text by whole pixels, and
black is laid over each pixel that has ink. Only the part of the line that can be
seen is drawn: a window that is found by turning what is visible back onto the line
(`contains_unturn`).
-/

namespace LabelRaster

namespace Orientation

/-- Where the point `(u, v)` of a line lies when the line is turned around an origin. -/
def turn (o : Orientation) (origin : Point) (u v : Int) : Point :=
  match o with
  | normal => ⟨origin.x + u, origin.y + v⟩
  | rotated => ⟨origin.x + v, origin.y - u - 1⟩
  | bottomUp => ⟨origin.x - v - 1, origin.y + u⟩
  | inverted => ⟨origin.x - u - 1, origin.y - v - 1⟩

/-- The points of a line that are turned into a rectangle. -/
def unturn (o : Orientation) (origin : Point) (r : Rect) : Rect :=
  match o with
  | normal =>
    ⟨r.left - origin.x, r.top - origin.y, r.right - origin.x, r.bottom - origin.y⟩
  | rotated =>
    ⟨origin.y - r.bottom, r.left - origin.x, origin.y - r.top, r.right - origin.x⟩
  | bottomUp =>
    ⟨r.top - origin.y, origin.x - r.right, r.bottom - origin.y, origin.x - r.left⟩
  | inverted =>
    ⟨origin.x - r.right, origin.y - r.bottom, origin.x - r.left, origin.y - r.top⟩

/-- A point of the line lies in the unturned rectangle if it is turned into the rectangle. -/
theorem contains_unturn {o : Orientation} {p : Point} {r : Rect} {u v : Int} :
    (o.unturn p r).Contains u v ↔ r.Contains (o.turn p u v).x (o.turn p u v).y := by
  cases o <;> simp only [unturn, turn, Rect.Contains] <;> omega

/-- The window on the part of a line that is turned into what is visible, if there is such a
part. -/
def visibleWindow? (o : Orientation) (origin : Point) (width height : Nat) (visible : Rect) :
    Option Window :=
  let r := (o.unturn origin visible).inter ⟨0, 0, width, height⟩
  if r.left < r.right ∧ r.top < r.bottom then
    some ⟨r.left.toNat, r.top.toNat, r.right.toNat, r.bottom.toNat⟩
  else none

/-- The window is the part of the line that is turned into what is visible. -/
theorem mem_visibleWindow_iff {o : Orientation} {p : Point} {width height : Nat}
    {visible : Rect} {w : Window} (h : o.visibleWindow? p width height visible = some w)
    (u v : Nat) :
    (w.left ≤ u ∧ u < w.right ∧ w.top ≤ v ∧ v < w.bottom) ↔
      u < width ∧ v < height ∧ visible.Contains (o.turn p u v).x (o.turn p u v).y := by
  simp only [visibleWindow?, Option.ite_none_right_eq_some, Option.some.injEq] at h
  obtain ⟨hne, rfl⟩ := h
  rw [← contains_unturn]
  simp only [Rect.inter, Rect.Contains] at hne ⊢
  omega

end Orientation

namespace Canvas

/-- Lays black over the canvas for `n` dots of ink, from number `k` on. -/
def letterFrom (o : Orientation) (origin : Point) (ink : Ink) : Nat → Nat → Canvas → Canvas
  | 0, _, c => c
  | n + 1, k, c =>
    let w := ink.window
    let p := o.turn origin (w.left + k % w.width : Nat) (w.top + k / w.width : Nat)
    letterFrom o origin ink n (k + 1) (c.blend p.x p.y .black ((ink.cells[k]?).getD 0.0))

/-- Lays black over the canvas where there is ink. -/
def letter (c : Canvas) (o : Orientation) (origin : Point) (ink : Ink) : Canvas :=
  letterFrom o origin ink (ink.window.width * ink.window.height) 0 c

/-- The height that a text is drawn with: beyond the longest side of a canvas, taller text is all
the same. -/
def letterHeight (height : Nat) : Nat := min height Viewport.greatestSide

/-- Paints a text. -/
def paintText (c : Canvas) (face : Face) (t : TextField) : Canvas :=
  if t.content.isEmpty then c
  else
    let height := letterHeight t.height
    let (width, lineHeight) := face.lineSize t.content height
    match t.orientation.visibleWindow? t.origin width lineHeight c.visible with
    | some window => c.letter t.orientation t.origin (face.lineInk t.content height window)
    | none => c

end Canvas

end LabelRaster

import LabelRaster.Preview
import LabelRaster.Proofs.Points
import LabelRaster.Proofs.VisiblePart

/-!
# Painting with bounded buffers

A painter keeps the glyphs that it has read from one text to the next, and needs a
buffer for the visible part of each text. That is no more than the canvas has pixels,
so no label is too much for it:

* `fits_of_visibleWindow`: on a canvas that a label can have, a text has its buffer;
* `exists_render?`: so a document is painted, and the glyphs kept do not show;
* `isSome_ofTextWith?`: a label text lacks a preview for its size alone.
-/

namespace LabelRaster

/-- A canvas whose sides are no longer than those of a label. -/
def Canvas.IsBounded (c : Canvas) : Prop :=
  c.width ≤ Viewport.greatestSide ∧ c.height ≤ Viewport.greatestSide

/-- What a window shows on a bounded canvas fits a buffer. -/
theorem Orientation.fits_of_visibleWindow {o : Orientation} {p : Point} {width height : Nat}
    {c : Canvas} (hc : c.IsBounded) {w : Window}
    (h : o.visibleWindow? p width height c.visible = some w) : w.Fits := by
  have hcanvas : c.width * c.height ≤ 32767 * 32767 := Nat.mul_le_mul hc.1 hc.2
  have hdots : w.width * w.height ≤ c.width * c.height := width_mul_height_le_canvas h
  rw [Window.Fits, bufferLimit]
  omega

namespace Canvas

/-- Paints a text, with the glyphs that have been read; it fails if there is no buffer for the part
of the text that can be seen. -/
def paintText? (face : Face) (t : TextField) (state : Canvas × Glyph.Cache) :
    Option (Canvas × Glyph.Cache) :=
  let (c, cache) := state
  if t.content.isEmpty then some (c, cache)
  else
    let height := letterHeight t.height
    let (width, lineHeight) := face.lineSize t.content height
    match t.orientation.visibleWindow? t.origin width lineHeight c.visible with
    | some window => do
      let (ink, cache) ← face.rasterize? cache t.content height window
      return (c.letter t.orientation t.origin ink, cache)
    | none => some (c, cache)

theorem exists_paintText? {c : Canvas} (hc : c.IsBounded) {cache : Glyph.Cache}
    (hcache : cache.IsFaithful) (face : Face) (t : TextField) :
    ∃ cache', paintText? face t (c, cache) = some (c.paintText face t, cache') ∧
      cache'.IsFaithful := by
  simp only [paintText?, paintText]
  split
  · exact ⟨cache, rfl, hcache⟩
  · generalize hsize : face.lineSize t.content (letterHeight t.height) = size
    cases hwindow : t.orientation.visibleWindow? t.origin size.1 size.2 c.visible with
    | none => exact ⟨cache, rfl, hcache⟩
    | some window =>
      have hfits : face.Fits t.content (letterHeight t.height) window :=
        (Orientation.fits_of_visibleWindow hc hwindow).within ..
      obtain ⟨cache', hdraw, hcache'⟩ := Face.exists_rasterize?_eq_lineInk hcache hfits
      simp only [hdraw, Option.bind_eq_bind, Option.bind_some]
      exact ⟨cache', rfl, hcache'⟩

end Canvas

namespace Painter

variable (painter : Painter)

/-- Paints one element, with the glyphs that have been read. -/
def paint? (state : Canvas × Glyph.Cache) : Element → Option (Canvas × Glyph.Cache)
  | .text t => Canvas.paintText? painter.face t state
  | e => some (painter.paint state.1 e, state.2)

/-- The picture of a document, if it has one, and the glyphs that have been read once it is painted;
painting fails if there is no buffer for one of the texts. -/
def render? (cache : Glyph.Cache) (d : Document) (v : Viewport) :
    Option (Option Picture × Glyph.Cache) :=
  if canHave v.width && canHave v.height then do
    let (c, cache) ← d.elements.foldlM painter.paint? (painter.canvas v, cache)
    return (some c.picture, cache)
  else some (none, cache)

/-- An element is painted, and the glyphs that are kept do not show. -/
theorem exists_paint? {c : Canvas} (hc : c.IsBounded) {cache : Glyph.Cache}
    (hcache : cache.IsFaithful) (e : Element) :
    ∃ cache', painter.paint? (c, cache) e = some (painter.paint c e, cache') ∧
      cache'.IsFaithful := by
  cases e with
  | text t => exact Canvas.exists_paintText? hc hcache painter.face t
  | _ => exact ⟨cache, rfl, hcache⟩

/-- Painting leaves a canvas within its bounds. -/
theorem isBounded_paint {c : Canvas} (hc : c.IsBounded) (e : Element) :
    (painter.paint c e).IsBounded := by
  have hframe : (painter.paint c e).frame = c.frame := painter.frame_paint c e
  simp only [Canvas.frame, Prod.mk.injEq] at hframe
  rw [Canvas.IsBounded, hframe.1, hframe.2.1]
  exact hc

theorem exists_foldlM_paint? (es : List Element) {c : Canvas} (hc : c.IsBounded)
    {cache : Glyph.Cache} (hcache : cache.IsFaithful) :
    ∃ cache', es.foldlM painter.paint? (c, cache) = some (es.foldl painter.paint c, cache') ∧
      cache'.IsFaithful := by
  induction es generalizing c cache with
  | nil => exact ⟨cache, rfl, hcache⟩
  | cons e es ih =>
    obtain ⟨cache', hpaint, hcache'⟩ := painter.exists_paint? hc hcache e
    rw [List.foldlM_cons, hpaint, List.foldl_cons]
    exact ih (painter.isBounded_paint hc e) hcache'

/-- Every document is painted, whatever was painted before, and as it would be if each text were
drawn with glyphs of its own in a buffer of any size. -/
theorem exists_render? {cache : Glyph.Cache} (hcache : cache.IsFaithful) (d : Document)
    (v : Viewport) :
    ∃ cache', painter.render? cache d v = some (painter.render d v, cache') ∧
      cache'.IsFaithful := by
  rw [render?, render]
  split
  · rename_i hv
    have hcanvas : (painter.canvas v).IsBounded := by
      simp only [canHave, Bool.and_eq_true, decide_eq_true_eq] at hv
      exact ⟨hv.1.2, hv.2.2⟩
    obtain ⟨cache', hpaint, hcache'⟩ := painter.exists_foldlM_paint? d.elements hcanvas hcache
    rw [hpaint]
    exact ⟨cache', rfl, hcache'⟩
  · exact ⟨cache, rfl, hcache⟩

end Painter

/-! ## Previews -/

namespace Viewport

/-- Lengths that a canvas can have give a viewport to paint in. -/
theorem accepted_ofLengths? {width height : Float} {v : Viewport}
    (h : ofLengths? width height = some v) : v.Accepted := by
  simp only [ofLengths?, Option.pure_def, Option.bind_eq_bind, Option.bind_eq_some_iff] at h
  obtain ⟨w, hw, h, hh, hv⟩ := h
  obtain rfl := Option.some.inj hv
  have hzero : Dot.Holds 0 := by decide
  exact ⟨side?_bounds hw, side?_bounds hh, hzero, hzero⟩

theorem accepted_centredOn {v : Viewport} (hv : v.Accepted) (content : Option Rect) :
    (v.centredOn content).Accepted := by
  obtain ⟨hw, hh, hx, hy⟩ := hv
  cases content with
  | none => exact ⟨hw, hh, hx, hy⟩
  | some r =>
    simp only [centredOn]
    split
    · exact ⟨hw, hh, Dot.holds_clamp _, hy⟩
    · exact ⟨hw, hh, hx, hy⟩

end Viewport

namespace Preview

/-- A picture can be painted in the viewport of a document; the scale at which it is shown plays no
part. -/
theorem accepted_viewport? {d : Document} {settings : Settings} {generator : Symbol.Generator}
    {v : Viewport} (h : viewport? d settings generator = some v) : v.Accepted := by
  simp only [viewport?, Option.pure_def, Option.bind_eq_bind, Option.bind_eq_some_iff] at h
  obtain ⟨laid, hlaid, hv⟩ := h
  obtain rfl := Option.some.inj hv
  have haccepted := Viewport.accepted_ofLengths? hlaid
  change (if settings.centred then laid.centredOn (contentBounds? generator d.elements)
    else laid).Accepted
  split
  · exact Viewport.accepted_centredOn haccepted _
  · exact haccepted

/-- A label text has its preview exactly when a canvas can have its size: nothing that stands in the
text makes the painting fail. -/
theorem isSome_ofTextWith? (text : String) (settings : Settings) (painter : Painter) :
    (ofTextWith? text settings painter).isSome =
      (viewport? (Document.ofText text) settings painter.generator).isSome := by
  simp only [ofTextWith?]
  cases h : viewport? (Document.ofText text) settings painter.generator with
  | none => rfl
  | some v =>
    simp only [Option.bind_eq_bind, Option.bind_some, Painter.render_eq (accepted_viewport? h)]
    rfl

end Preview

end LabelRaster

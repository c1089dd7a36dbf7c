import LabelRaster.Paint.Painter
import LabelRaster.Proofs.Lettering

/-!
# What is painted at a point

Painting is told point by point: each element turns the colour under it into a colour of
its own (`Element.shade`), by its own fields alone. Where a canvas lies decides which
points are seen, but not what is painted there. So canvases and pictures, which are told
by their points (`Canvas.ext_get?`, `Viewport.ext_pixel?`), agree on the points of both.
-/

namespace LabelRaster

/-! ## Frames -/

namespace Canvas

/-- The size and the offset of a canvas. -/
def frame (c : Canvas) : Nat × Nat × Point := (c.width, c.height, c.offset)

@[simp] theorem frame_update (c : Canvas) (x y : Int) (f : Color → Color) :
    (c.update x y f).frame = c.frame := by
  unfold update
  split <;> rfl

@[simp] theorem frame_set (c : Canvas) (x y : Int) (color : Color) :
    (c.set x y color).frame = c.frame := frame_update ..

@[simp] theorem frame_blend (c : Canvas) (x y : Int) (ink : Color) (coverage : Float32) :
    (c.blend x y ink coverage).frame = c.frame := by
  unfold blend
  split
  · rfl
  · exact frame_update ..

@[simp] theorem frame_fillRow (color : Color) (x y : Int) (n : Nat) (c : Canvas) :
    (fillRow color x y n c).frame = c.frame := by
  induction n generalizing x c with
  | zero => rfl
  | succ n ih => rw [fillRow, ih, frame_set]

@[simp] theorem frame_fillRows (color : Color) (x y : Int) (columns n : Nat) (c : Canvas) :
    (fillRows color x y columns n c).frame = c.frame := by
  induction n generalizing y c with
  | zero => rfl
  | succ n ih => rw [fillRows, ih, frame_fillRow]

@[simp] theorem frame_fill (c : Canvas) (r : Rect) (color : Color) :
    (c.fill r color).frame = c.frame := frame_fillRows ..

@[simp] theorem frame_paint (c : Canvas) (patches : List Patch) :
    (c.paint patches).frame = c.frame := by
  induction patches generalizing c with
  | nil => rfl
  | cons p ps ih => exact (ih _).trans (frame_fill ..)

@[simp] theorem frame_stampRow (x y : Int) (width : Nat) (data : Array UInt8) (row n col : Nat)
    (c : Canvas) : (stampRow x y width data row n col c).value.frame = c.frame := by
  induction n generalizing col c with
  | zero => rfl
  | succ n ih =>
    rw [stampRow]
    cases Color.ofData? data (row * width + col) with
    | some color => exact (ih ..).trans (frame_set ..)
    | none => rfl

@[simp] theorem frame_stampRows (x y : Int) (width : Nat) (data : Array UInt8) (n row : Nat)
    (c : Canvas) : (stampRows x y width data n row c).frame = c.frame := by
  induction n generalizing row c with
  | zero => rfl
  | succ n ih =>
    have hrow := frame_stampRow x y width data row width 0 c
    rw [stampRows]
    cases hstep : stampRow x y width data row width 0 c with
    | yield d =>
      rw [hstep] at hrow
      exact (ih ..).trans hrow
    | done d =>
      rw [hstep] at hrow
      exact hrow

@[simp] theorem frame_stamp (c : Canvas) (x y : Int) (width height : Nat) (data : Array UInt8) :
    (c.stamp x y width height data).frame = c.frame := by
  rw [stamp]
  split
  · rfl
  · exact frame_stampRows ..

@[simp] theorem frame_letterFrom (o : Orientation) (p : Point) (ink : Ink) (n k : Nat)
    (c : Canvas) : (letterFrom o p ink n k c).frame = c.frame := by
  induction n generalizing k c with
  | zero => rfl
  | succ n ih => rw [letterFrom, ih, frame_blend]

@[simp] theorem frame_letter (c : Canvas) (o : Orientation) (p : Point) (ink : Ink) :
    (c.letter o p ink).frame = c.frame := frame_letterFrom ..

@[simp] theorem frame_paintText (c : Canvas) (face : Face) (t : TextField) :
    (c.paintText face t).frame = c.frame := by
  unfold paintText
  split
  · rfl
  · dsimp only
    split
    · exact frame_letter ..
    · rfl

/-- The pixel at a logical position, in the picture that a canvas is. -/
theorem get?_picture {c : Canvas} {x y : Int} (h : c.visible.Contains x y) :
    c.picture.get? (x + c.offset.x).toNat (y + c.offset.y).toNat = c.get? x y := by
  have hi : c.index? x y =
      some ((y + c.offset.y).toNat * c.width + (x + c.offset.x).toNat) := if_pos h
  rw [get?, hi, Option.bind_some, Picture.get?, if_pos]
  · rfl
  · simp only [visible, Rect.Contains] at h
    simp only [picture]
    omega

end Canvas

/-- A picture is told by its pixels. -/
theorem Picture.ext_get? {p q : Picture} (hw : p.width = q.width) (hh : p.height = q.height)
    (h : ∀ x y, x < p.width → y < p.height → p.get? x y = q.get? x y) : p = q := by
  obtain ⟨w, n, ps, hps⟩ := p
  obtain ⟨_, _, qs, hqs⟩ := q
  cases hw
  cases hh
  have hpixels : ps = qs := by
    refine Array.ext (hps.trans hqs.symm) fun i hi hi' => ?_
    have hlt : i < w * n := hps ▸ hi
    have hw : 0 < w := Nat.pos_of_lt_mul_right hlt
    have hx : i % w < w := Nat.mod_lt i hw
    have hy : i / w < n := Nat.div_lt_of_lt_mul hlt
    have hi := h (i % w) (i / w) hx hy
    simpa only [get?, if_pos (And.intro hx hy), Nat.div_add_mod', Array.getElem?_eq_getElem, hps,
      hqs, hlt, Option.some.injEq] using hi
  cases hpixels
  rfl

/-- A canvas is told by its size, its offset and the colours of its points. -/
theorem Canvas.ext_get? {c d : Canvas} (hf : c.frame = d.frame)
    (h : ∀ x y, c.visible.Contains x y → c.get? x y = d.get? x y) : c = d := by
  obtain ⟨w, n, o, ps, hps⟩ := c
  obtain ⟨_, _, _, qs, hqs⟩ := d
  cases hf
  have hpicture : picture ⟨w, n, o, ps, hps⟩ = picture ⟨w, n, o, qs, hqs⟩ := by
    refine Picture.ext_get? rfl rfl fun x y hx hy => ?_
    have hv : (⟨w, n, o, ps, hps⟩ : Canvas).visible.Contains (x - o.x) (y - o.y) := by
      simp only [picture] at hx hy
      simp only [visible, Rect.Contains]
      omega
    have hxy := h _ _ hv
    rw [← get?_picture hv, ← get?_picture (c := ⟨w, n, o, qs, hqs⟩) hv] at hxy
    simpa only [Int.sub_add_cancel, Int.toNat_natCast] using hxy
  cases hpicture
  rfl

/-! ## Elements -/

/-- The colour of a picture at a point, if it has a pixel there. -/
def PictureField.color? (p : PictureField) (x y : Int) : Option Color :=
  if p.width ≤ 0 ∨ p.height ≤ 0 then none
  else (Canvas.stampNumber? p.origin.x p.origin.y p.width.toNat x y).bind fun k =>
    if k < p.width.toNat * p.height.toNat then Color.ofData? p.data k else none

/-- With no bytes there are no pixels. -/
theorem PictureField.color?_of_isEmpty {p : PictureField} (h : p.data.isEmpty) (x y : Int) :
    p.color? x y = none := by
  have hnone (k : Nat) : Color.ofData? p.data k = none := by
    rw [← Option.not_isSome_iff_eq_none, Color.ofData?_isSome_iff, Array.isEmpty_iff_size_eq_zero.1 h]
    omega
  simp only [color?, hnone, ite_self, Option.bind_fun_none]

namespace Element

/-- The colour that an element leaves at a point, with texts in the built-in face. -/
def shade (generator : Symbol.Generator) (x y : Int) (under : Color) : Element → Color
  | text t => t.shade x y under
  | box b => (Patch.top? b.patches x y).getD under
  | bars b => (Patch.top? b.patches x y).getD under
  | matrix m => (Patch.top? (m.patches generator) x y).getD under
  | picture p => (p.color? x y).getD under

end Element

/-- The colour that a document has at a point. -/
def Document.color (generator : Symbol.Generator) (background : Color) (d : Document) (x y : Int) :
    Color :=
  d.elements.foldl (Element.shade generator x y) background

namespace Painter

@[simp] theorem frame_paint (painter : Painter) (c : Canvas) (e : Element) :
    (painter.paint c e).frame = c.frame := by
  cases e with
  | text t => exact Canvas.frame_paintText ..
  | box b => exact Canvas.frame_paint ..
  | bars b => exact Canvas.frame_paint ..
  | matrix m => exact Canvas.frame_paint ..
  | picture p =>
    rw [paint]
    split
    · rfl
    · exact Canvas.frame_stamp ..

/-- Painting neither moves a canvas nor changes its size. -/
theorem frame_foldl_paint (painter : Painter) (c : Canvas) (es : List Element) :
    (es.foldl painter.paint c).frame = c.frame := by
  induction es generalizing c with
  | nil => rfl
  | cons e es ih => rw [List.foldl_cons, ih, frame_paint]

theorem get?_paint (generator : Symbol.Generator) (background : Color) (c : Canvas) (e : Element)
    (x y : Int) :
    ((⟨generator, .bitmap, background⟩ : Painter).paint c e).get? x y =
      (c.get? x y).map (e.shade generator x y ·) := by
  cases e with
  | text t => exact Canvas.get?_paintText ..
  | box b => exact Canvas.get?_paint ..
  | bars b => exact Canvas.get?_paint ..
  | matrix m => exact Canvas.get?_paint ..
  | picture p =>
    by_cases hempty : p.data.isEmpty
    · simp only [paint, Element.shade, hempty, or_true, if_pos, PictureField.color?_of_isEmpty,
        Option.getD_none, Option.map_id']
    · simp only [paint, Element.shade, PictureField.color?, hempty, or_false, Bool.false_eq_true]
      split
      · simp only [Option.getD_none, Option.map_id']
      · exact Canvas.get?_stamp ..

/-- Elements painted in order change a point in that order. -/
theorem get?_foldl_paint (generator : Symbol.Generator) (background : Color) (c : Canvas)
    (es : List Element) (x y : Int) :
    (es.foldl (⟨generator, .bitmap, background⟩ : Painter).paint c).get? x y =
      (c.get? x y).map fun under => es.foldl (Element.shade generator x y) under := by
  induction es generalizing c with
  | nil => simp only [List.foldl_nil, Option.map_id']
  | cons e es ih =>
    rw [List.foldl_cons, ih, get?_paint, Option.map_map]
    rfl

end Painter

/-! ## Pictures of a document -/

namespace Viewport

/-- Whether a picture can be painted in a viewport. -/
def Accepted (v : Viewport) : Prop :=
  (1 ≤ v.width ∧ v.width ≤ greatestSide) ∧ (1 ≤ v.height ∧ v.height ≤ greatestSide) ∧
    Dot.Holds v.offset.x ∧ Dot.Holds v.offset.y

instance (v : Viewport) : Decidable v.Accepted := inferInstanceAs (Decidable (_ ∧ _))

/-- Whether a logical position lands on the canvas. -/
def Shows (v : Viewport) (x y : Int) : Prop :=
  (0 ≤ x + v.offset.x ∧ x + v.offset.x < v.width) ∧
    (0 ≤ y + v.offset.y ∧ y + v.offset.y < v.height)

instance (v : Viewport) (x y : Int) : Decidable (v.Shows x y) :=
  inferInstanceAs (Decidable (_ ∧ _))

/-- The pixel of a picture at a logical position. -/
def pixel? (v : Viewport) (p : Picture) (x y : Int) : Option Color :=
  p.get? (x + v.offset.x).toNat (y + v.offset.y).toNat

theorem contains_visible_iff {v : Viewport} {c : Canvas}
    (h : c.frame = (v.width, v.height, v.offset)) {x y : Int} :
    c.visible.Contains x y ↔ v.Shows x y := by
  simp only [Canvas.frame, Prod.mk.injEq] at h
  obtain ⟨hw, hh, ho⟩ := h
  simp only [Canvas.visible, Rect.Contains, Shows, hw, hh, ho]
  omega

theorem pixel?_picture {v : Viewport} {c : Canvas} (h : c.frame = (v.width, v.height, v.offset))
    {x y : Int} (hs : v.Shows x y) : v.pixel? c.picture x y = c.get? x y := by
  have ho : c.offset = v.offset := congrArg (fun f => f.2.2) h
  rw [pixel?, ← ho, Canvas.get?_picture ((contains_visible_iff h).2 hs)]

/-- Pictures of the size of a viewport are told by the points that it shows. -/
theorem ext_pixel? {v : Viewport} {a b : Picture} (ha : a.width = v.width ∧ a.height = v.height)
    (hb : b.width = v.width ∧ b.height = v.height)
    (h : ∀ x y, v.Shows x y → v.pixel? a x y = v.pixel? b x y) : a = b := by
  refine Picture.ext_get? (ha.1.trans hb.1.symm) (ha.2.trans hb.2.symm) fun x y hx hy => ?_
  have hs : v.Shows (x - v.offset.x) (y - v.offset.y) := by
    simp only [Shows]
    omega
  simpa only [pixel?, Int.sub_add_cancel, Int.toNat_natCast] using h _ _ hs

end Viewport

namespace Painter

theorem frame_canvas (painter : Painter) {v : Viewport} (hv : v.Accepted) :
    (painter.canvas v).frame = (v.width, v.height, v.offset) := by
  obtain ⟨-, -, hx, hy⟩ := hv
  simp [canvas, Canvas.frame, Canvas.translate, Canvas.flood, Canvas.blank, Dot.add,
    Dot.clamp_of_mem hx.1 hx.2, Dot.clamp_of_mem hy.1 hy.2]

theorem render_eq {painter : Painter} {v : Viewport} (hv : v.Accepted) (d : Document) :
    painter.render d v = some (d.elements.foldl painter.paint (painter.canvas v)).picture := by
  obtain ⟨hw, hh, -⟩ := hv
  simp [render, canHave, hw, hh]

theorem frame_painted (painter : Painter) {v : Viewport} (hv : v.Accepted) (es : List Element) :
    (es.foldl painter.paint (painter.canvas v)).frame = (v.width, v.height, v.offset) :=
  (frame_foldl_paint ..).trans (frame_canvas painter hv)

/-- A picture has the size of its viewport. -/
theorem size_render {painter : Painter} {v : Viewport} (hv : v.Accepted) {d : Document}
    {p : Picture} (h : painter.render d v = some p) : p.width = v.width ∧ p.height = v.height := by
  rw [render_eq hv] at h
  obtain rfl := Option.some.inj h
  have hframe := frame_painted painter hv d.elements
  exact ⟨congrArg Prod.fst hframe, congrArg (fun f => f.2.1) hframe⟩

/-- The background covers every point that is shown. -/
theorem get?_canvas (painter : Painter) {v : Viewport} (hv : v.Accepted) {x y : Int}
    (h : v.Shows x y) : (painter.canvas v).get? x y = some painter.background := by
  have hvis := (Viewport.contains_visible_iff (painter.frame_canvas hv)).2 h
  obtain ⟨i, hi⟩ := Option.isSome_iff_exists.1 (Canvas.index?_isSome_iff.2 hvis)
  have hpixels : (painter.canvas v).pixels =
      Array.replicate (v.width * v.height) painter.background := rfl
  have hlt := Canvas.index?_lt hi
  rw [hpixels, Array.size_replicate] at hlt
  rw [Canvas.get?, hi, Option.bind_some, hpixels, Array.getElem?_replicate, if_pos hlt]

/-- The picture of a document has the colours of the document at the points that it shows. -/
theorem pixel?_render (generator : Symbol.Generator) (background : Color) (d : Document)
    {v : Viewport} (hv : v.Accepted) :
    ∃ p, (⟨generator, .bitmap, background⟩ : Painter).render d v = some p ∧
      ∀ x y, v.Shows x y → v.pixel? p x y = some (d.color generator background x y) := by
  refine ⟨_, render_eq hv d, fun x y h => ?_⟩
  rw [Viewport.pixel?_picture (frame_painted _ hv _) h,
    get?_foldl_paint, get?_canvas _ hv h, Option.map_some, Document.color]

/-- The colour of a point does not depend on the canvas that shows it: two pictures of a document
agree on every point that lands on both. -/
theorem pixel?_render_eq (generator : Symbol.Generator) (background : Color) (d : Document)
    {v w : Viewport} (hv : v.Accepted) (hw : w.Accepted) :
    ∃ p q, (⟨generator, .bitmap, background⟩ : Painter).render d v = some p ∧
      (⟨generator, .bitmap, background⟩ : Painter).render d w = some q ∧
      ∀ x y, v.Shows x y → w.Shows x y →
        ∃ color, v.pixel? p x y = some color ∧ w.pixel? q x y = some color := by
  obtain ⟨p, hp, hcolor⟩ := pixel?_render generator background d hv
  obtain ⟨q, hq, hcolor'⟩ := pixel?_render generator background d hw
  exact ⟨p, q, hp, hq, fun x y h h' => ⟨_, hcolor x y h, hcolor' x y h'⟩⟩

/-- A point near the left end of one canvas and near the lower end of the other. -/
theorem pixel?_render_eq_moved :
    let generator : Symbol.Generator := fun _ => .ok (.tabulate 2 fun row col => row == col)
    let d : Document := ⟨[.box ⟨⟨3, 4⟩, 20, 0, 3⟩, .matrix ⟨⟨9, 2⟩, 4, none, "x"⟩,
      .text ⟨⟨10, 5⟩, "sans-serif", 12, .rotated, "a b"⟩], none⟩
    let painter : Painter := ⟨generator, .bitmap, .white⟩
    let v : Viewport := ⟨40, 30, ⟨-9, -3⟩, 1.0⟩
    let w : Viewport := ⟨32767, 105, ⟨2000, 100⟩, 1.0⟩
    (v.Accepted ∧ w.Accepted) ∧ (v.Shows 10 4 ∧ w.Shows 10 4) ∧
      ∃ p q color, painter.render d v = some p ∧ painter.render d w = some q ∧
        v.pixel? p 10 4 = some color ∧ w.pixel? q 10 4 = some color := by
  intro generator d painter v w
  have hv : v.Accepted := by decide
  have hw : w.Accepted := by decide
  have hs : v.Shows 10 4 ∧ w.Shows 10 4 := by decide
  obtain ⟨p, q, hp, hq, heq⟩ := pixel?_render_eq generator .white d hv hw
  obtain ⟨color, hpc, hqc⟩ := heq 10 4 hs.1 hs.2
  exact ⟨⟨hv, hw⟩, hs, p, q, color, hp, hq, hpc, hqc⟩

end Painter

end LabelRaster

import LabelRaster.Paint.Lettering
import LabelRaster.Raster.Painting

/-!
# What a text paints at a point

Each position lies on one dot of a line, told by `Orientation.dot`, and black is laid
over it as often as that dot is drawn, which is once or never (`get?_letter`). The window
of a text only leaves dots out that cannot be seen, so that the whole line tells what is
painted (`get?_paintText`).
-/

namespace LabelRaster

/-- The colour of a point after ink is laid over it; without coverage nothing is laid. -/
def Color.inked (ink : Color) (coverage : Float32) (under : Color) : Color :=
  if Canvas.share coverage ≤ 0.0 then under else blend ink (Canvas.share coverage) under

namespace Orientation

/-- The dot of a line that lies at a position when the line is turned around an origin. -/
def dot (o : Orientation) (origin : Point) (x y : Int) : Point :=
  match o with
  | normal => ⟨x - origin.x, y - origin.y⟩
  | rotated => ⟨origin.y - y - 1, x - origin.x⟩
  | bottomUp => ⟨y - origin.y, origin.x - x - 1⟩
  | inverted => ⟨origin.x - x - 1, origin.y - y - 1⟩

/-- The dot at a position is the one that is turned there. -/
theorem dot_eq_iff {o : Orientation} {p : Point} {x y u v : Int} :
    (o.dot p x y).x = u ∧ (o.dot p x y).y = v ↔ x = (o.turn p u v).x ∧ y = (o.turn p u v).y := by
  cases o <;> simp only [dot, turn] <;> omega

theorem contains_unturn_dot {o : Orientation} {p : Point} {r : Rect} {x y : Int} :
    (o.unturn p r).Contains (o.dot p x y).x (o.dot p x y).y ↔ r.Contains x y := by
  cases o <;> simp only [unturn, dot, Rect.Contains] <;> omega

end Orientation

/-- The dots of a window. -/
def Window.rect (w : Window) : Rect := ⟨w.left, w.top, w.right, w.bottom⟩

namespace Canvas

theorem get?_blend (c : Canvas) (x y : Int) (ink : Color) (coverage : Float32) (u v : Int) :
    (c.blend x y ink coverage).get? u v =
      if u = x ∧ v = y then (c.get? u v).map (Color.inked ink coverage) else c.get? u v := by
  by_cases h : share coverage ≤ 0.0
  · have hid : Color.inked ink coverage = id := by
      funext under
      rw [Color.inked, if_pos h, id]
    rw [blend, if_pos h, hid, Option.map_id, id, ite_self]
  · have hmix : Color.inked ink coverage = Color.blend ink (share coverage) := by
      funext under
      rw [Color.inked, if_neg h]
    rw [blend, if_neg h, get?_update, hmix]

/-- The number of the dot of a window that lies at a position, counted in endless rows. -/
def dotNumber? (o : Orientation) (p : Point) (w : Window) (x y : Int) : Option Nat :=
  stampNumber? w.left w.top w.width (o.dot p x y).x (o.dot p x y).y

theorem dotNumber?_eq_some_iff {o : Orientation} {p : Point} {w : Window} (hw : 0 < w.width)
    {x y : Int} {k : Nat} :
    dotNumber? o p w x y = some k ↔
      let q := o.turn p (w.left + k % w.width : Nat) (w.top + k / w.width : Nat)
      x = q.x ∧ y = q.y := by
  rw [dotNumber?, stampNumber?_eq_some_iff hw, Int.natCast_add, Int.natCast_add]
  exact Orientation.dot_eq_iff

theorem get?_letterFrom (o : Orientation) (p : Point) {ink : Ink} (hw : 0 < ink.window.width)
    (n k : Nat) (c : Canvas) (x y : Int) :
    (letterFrom o p ink n k c).get? x y =
      (c.get? x y).map fun under => ((dotNumber? o p ink.window x y).bind fun j =>
        if k ≤ j ∧ j < k + n then some (.inked .black ((ink.cells[j]?).getD 0.0) under)
        else none).getD under := by
  refine get?_steps (letterFrom o p ink) (fun _ _ => rfl) (fun _ _ _ => rfl) (fun k c => ?_) n k c
  simp only [dotNumber?_eq_some_iff hw]
  exact get?_blend ..

/-- A window has a number for each of its dots. -/
theorem dotNumber?_lt_iff {o : Orientation} {p : Point} {w : Window} (hw : 0 < w.width)
    {x y : Int} {k : Nat} :
    dotNumber? o p w x y = some k ∧ k < w.width * w.height ↔
      w.rect.Contains (o.dot p x y).x (o.dot p x y).y ∧
        k = ((o.dot p x y).y - w.top).toNat * w.width + ((o.dot p x y).x - w.left).toNat := by
  generalize hq : o.dot p x y = q
  have hright : (w.right : Int) = w.left + w.width := by rw [Window.width] at hw ⊢; omega
  have hbottom (row : Nat) : w.top + row < w.bottom ↔ row < w.height := by
    rw [Window.height]; omega
  simp only [dotNumber?, hq, stampNumber?, Option.ite_none_right_eq_some, Option.some.injEq,
    Window.rect, Rect.Contains]
  constructor
  · rintro ⟨⟨⟨hl, hr, ht⟩, rfl⟩, hlt⟩
    have := (hbottom _).2 ((Rows.number_lt_iff (by omega)).1 hlt)
    exact ⟨⟨hl, by omega, ht, by omega⟩, rfl⟩
  · rintro ⟨⟨hl, hr, ht, hb⟩, rfl⟩
    have := (hbottom (q.y - w.top).toNat).1 (by omega)
    exact ⟨⟨⟨hl, by omega, ht⟩, rfl⟩, (Rows.number_lt_iff (by omega)).2 this⟩

/-- Ink is laid over the points that its window is turned to. -/
theorem get?_letter (c : Canvas) (o : Orientation) (p : Point) (ink : Ink) (x y : Int) :
    (c.letter o p ink).get? x y = (c.get? x y).map fun under =>
      let q := o.dot p x y
      if ink.window.rect.Contains q.x q.y then
        .inked .black (ink.coverage (q.x - ink.window.left).toNat (q.y - ink.window.top).toNat)
          under
      else under := by
  rcases Nat.eq_zero_or_pos ink.window.width with hw | hw
  · have h (q : Point) : ¬ ink.window.rect.Contains q.x q.y := by
      simp only [Window.width] at hw
      simp only [Window.rect, Rect.Contains]
      omega
    simp only [if_neg (h _), Option.map_id']
    rw [letter, hw, Nat.zero_mul, letterFrom]
  · rw [letter, get?_letterFrom o p hw]
    congr 1
    funext under
    by_cases hr : ink.window.rect.Contains (o.dot p x y).x (o.dot p x y).y
    · obtain ⟨hj, hlt⟩ := (dotNumber?_lt_iff hw).2 ⟨hr, rfl⟩
      have hcol : ((o.dot p x y).x - ink.window.left).toNat < ink.window.width := by
        simp only [Window.rect, Rect.Contains] at hr
        rw [Window.width]
        omega
      simp only [hj, Option.bind_some, if_pos hr, Nat.zero_le, true_and, Nat.zero_add, if_pos hlt,
        Option.getD_some, Ink.coverage, if_pos hcol]
    · have hnone (j : Nat) (hj : dotNumber? o p ink.window x y = some j) :
          ¬ (0 ≤ j ∧ j < 0 + ink.window.width * ink.window.height) := fun h =>
        hr ((dotNumber?_lt_iff hw).1 ⟨hj, by omega⟩).1
      simp only [if_neg hr]
      cases hj : dotNumber? o p ink.window x y with
      | none => simp only [Option.bind_none, Option.getD_none]
      | some j => simp only [Option.bind_some, if_neg (hnone j hj), Option.getD_none]

end Canvas

/-! ## Texts in the built-in face -/

namespace Orientation

theorem rect_visibleWindow {o : Orientation} {p : Point} {width height : Nat} {visible : Rect}
    {w : Window} (h : o.visibleWindow? p width height visible = some w) :
    w.rect = (o.unturn p visible).inter ⟨0, 0, width, height⟩ := by
  simp only [visibleWindow?, Option.ite_none_right_eq_some, Option.some.injEq] at h
  obtain ⟨hne, rfl⟩ := h
  simp only [Rect.inter] at hne
  simp only [Window.rect, Rect.inter, Rect.mk.injEq]
  omega

theorem within_visibleWindow {o : Orientation} {p : Point} {width height : Nat} {visible : Rect}
    {w : Window} (h : o.visibleWindow? p width height visible = some w) :
    w.within width height = w := by
  have hr : (w.right : Int) = min (o.unturn p visible).right width :=
    congrArg Rect.right (rect_visibleWindow h)
  have hb : (w.bottom : Int) = min (o.unturn p visible).bottom height :=
    congrArg Rect.bottom (rect_visibleWindow h)
  have hr : min w.right width = w.right := by omega
  have hb : min w.bottom height = w.bottom := by omega
  rw [Window.within, hr, hb]

/-- Without a window there is no dot that could be seen. -/
theorem not_contains_of_visibleWindow?_eq_none {o : Orientation} {p : Point} {width height : Nat}
    {visible : Rect} (h : o.visibleWindow? p width height visible = none) (u v : Int) :
    ¬ ((o.unturn p visible).inter ⟨0, 0, width, height⟩).Contains u v := by
  simp only [visibleWindow?, ite_eq_right_iff, reduceCtorEq, imp_false] at h
  simp only [Rect.Contains]
  omega

end Orientation

namespace TextField

/-- The height of the line that a text is drawn as. -/
def drawnHeight (t : TextField) : Nat := BitmapFace.lineHeight (Canvas.letterHeight t.height)

/-- The dots of the line that a text is drawn as. -/
def line (t : TextField) : Rect :=
  ⟨0, 0, BitmapFace.lineWidth t.content t.drawnHeight, t.drawnHeight⟩

/-- The colour that a text leaves at a point. -/
def shade (t : TextField) (x y : Int) (under : Color) : Color :=
  let q := t.orientation.dot t.origin x y
  if t.line.Contains q.x q.y then
    .inked .black
      (BitmapFace.ofInked (BitmapFace.isInked t.content t.drawnHeight q.x.toNat q.y.toNat)) under
  else under

/-- A window of the line has the ink of the line. -/
theorem coverage_line (t : TextField) {w : Window}
    (hw : w.within (BitmapFace.lineWidth t.content t.drawnHeight) t.drawnHeight = w) {u v : Int}
    (h : w.rect.Contains u v) :
    (BitmapFace.lineInk t.content (Canvas.letterHeight t.height) w).coverage
        (u - w.left).toNat (v - w.top).toNat =
      BitmapFace.ofInked (BitmapFace.isInked t.content t.drawnHeight u.toNat v.toNat) := by
  simp only [Window.rect, Rect.Contains] at h
  have hin : (u - w.left).toNat < w.width ∧ (v - w.top).toNat < w.height := by
    rw [Window.width, Window.height]
    omega
  have hu : w.left + (u - w.left).toNat = u.toNat := by omega
  have hv : w.top + (v - w.top).toNat = v.toNat := by omega
  rw [drawnHeight] at hw
  rw [BitmapFace.coverage_lineInk]
  simp only [hw, if_pos hin, hu, hv, drawnHeight]

end TextField

namespace Canvas

theorem paintText_bitmap (c : Canvas) (t : TextField) :
    c.paintText .bitmap t =
      if t.content.isEmpty then c
      else match t.orientation.visibleWindow? t.origin
          (BitmapFace.lineWidth t.content t.drawnHeight) t.drawnHeight c.visible with
        | some w =>
          c.letter t.orientation t.origin (BitmapFace.lineInk t.content (letterHeight t.height) w)
        | none => c := rfl

theorem map_shade_eq_self {c : Canvas} {t : TextField} {x y : Int}
    (h : c.visible.Contains x y →
      ¬ t.line.Contains (t.orientation.dot t.origin x y).x (t.orientation.dot t.origin x y).y) :
    (c.get? x y).map (t.shade x y) = c.get? x y := by
  by_cases hv : c.visible.Contains x y
  · have hid : t.shade x y = id := by
      funext under
      rw [TextField.shade, if_neg (h hv), id]
    rw [hid, Option.map_id, id]
  · rw [get?_eq_none_iff.2 hv, Option.map_none]

/-- The window of a text leaves only dots out that cannot be seen. -/
theorem get?_letter_window {c : Canvas} {t : TextField} {w : Window}
    (hw : t.orientation.visibleWindow? t.origin (BitmapFace.lineWidth t.content t.drawnHeight)
      t.drawnHeight c.visible = some w) (x y : Int) :
    (c.letter t.orientation t.origin
      (BitmapFace.lineInk t.content (letterHeight t.height) w)).get? x y =
        (c.get? x y).map (t.shade x y) := by
  have hwin : (BitmapFace.lineInk t.content (letterHeight t.height) w).window = w :=
    (BitmapFace.lineInk_window ..).trans (Orientation.within_visibleWindow hw)
  have hrect : w.rect = (t.orientation.unturn t.origin c.visible).inter t.line :=
    Orientation.rect_visibleWindow hw
  rw [get?_letter, hwin]
  by_cases hv : c.visible.Contains x y
  · congr 1
    funext under
    have hq := Orientation.contains_unturn_dot (o := t.orientation) (p := t.origin) |>.2 hv
    have hiff := Rect.contains_inter.trans (and_iff_right (b := t.line.Contains _ _) hq)
    rw [← hrect] at hiff
    simp only [TextField.shade, ← hiff]
    refine ite_congr rfl (fun hin => ?_) fun _ => rfl
    rw [t.coverage_line (Orientation.within_visibleWindow hw) hin]
  · rw [get?_eq_none_iff.2 hv, Option.map_none, Option.map_none]

/-- A text lays the ink of its whole line over what can be seen of the canvas. -/
theorem get?_paintText (c : Canvas) (t : TextField) (x y : Int) :
    (c.paintText .bitmap t).get? x y = (c.get? x y).map (t.shade x y) := by
  rw [paintText_bitmap]
  split
  · rename_i he
    have hlen : t.content.length = 0 := by rw [String.isEmpty_iff.1 he]; rfl
    refine (map_shade_eq_self fun _ => ?_).symm
    simp only [TextField.line, BitmapFace.lineWidth, hlen, Rect.Contains]
    omega
  · split
    · rename_i w hw
      exact get?_letter_window hw x y
    · rename_i hw
      refine (map_shade_eq_self fun hv hline => ?_).symm
      exact Orientation.not_contains_of_visibleWindow?_eq_none hw _ _
        (Rect.contains_inter.2 ⟨Orientation.contains_unturn_dot.2 hv, hline⟩)

end Canvas

end LabelRaster

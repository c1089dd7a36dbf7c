import LabelRaster.Proofs.Leading
import LabelRaster.Proofs.Lettering

/-!
# The part of a line that can be seen

What can be seen of a line is turned back onto the line and cut to it. No dot is lost or
added by that: the window holds the dots that are turned onto the canvas
(`exists_contains_iff`), it is missing only when there are none, and it is never larger
than the canvas (`width_mul_height_le_canvas`), however long the line may be.
-/

namespace LabelRaster

variable {o : Orientation} {p : Point} {width height : Nat} {visible : Rect} {w : Window}

namespace Orientation

/-! ## The dots of a window -/

theorem exists_contains_iff {u v : Nat} (hu : u < width) (hv : v < height) :
    (∃ w ∈ o.visibleWindow? p width height visible, w.rect.Contains u v) ↔
      visible.Contains (o.turn p u v).x (o.turn p u v).y := by
  constructor
  · rintro ⟨w, hw, hcontains⟩
    simp only [Window.rect, Rect.Contains] at hcontains
    exact ((mem_visibleWindow_iff hw u v).1 (by omega)).2.2
  · intro hvisible
    have hline : (⟨0, 0, width, height⟩ : Rect).Contains u v := by
      simp only [Rect.Contains]
      omega
    have hboth := Rect.contains_inter.2 ⟨contains_unturn.2 hvisible, hline⟩
    cases hw : o.visibleWindow? p width height visible with
    | none => exact (not_contains_of_visibleWindow?_eq_none hw u v hboth).elim
    | some w => exact ⟨w, rfl, (rect_visibleWindow hw).symm ▸ hboth⟩

/-- A window has a dot, and lies within its line. -/
theorem bounds_visibleWindow (h : o.visibleWindow? p width height visible = some w) :
    w.left < w.right ∧ w.top < w.bottom ∧ w.right ≤ width ∧ w.bottom ≤ height := by
  simp only [visibleWindow?, Option.ite_none_right_eq_some, Option.some.injEq] at h
  obtain ⟨hne, rfl⟩ := h
  simp only [Rect.inter] at hne ⊢
  omega

theorem visibleWindow?_eq_none_iff :
    o.visibleWindow? p width height visible = none ↔
      ∀ u v : Nat, u < width → v < height →
        ¬ visible.Contains (o.turn p u v).x (o.turn p u v).y := by
  constructor
  · intro hnone u v hu hv hvisible
    obtain ⟨w, hw, -⟩ := (exists_contains_iff hu hv).2 hvisible
    exact Option.not_mem_none w (hnone ▸ hw)
  · intro hhidden
    cases hw : o.visibleWindow? p width height visible with
    | none => rfl
    | some w =>
      obtain ⟨hleft, htop, hright, hbottom⟩ := bounds_visibleWindow hw
      have hcorner : w.rect.Contains w.left w.top := by
        simp only [Window.rect, Rect.Contains]
        omega
      have hu : w.left < width := by omega
      have hv : w.top < height := by omega
      exact (hhidden w.left w.top hu hv ((exists_contains_iff hu hv).1 ⟨w, hw, hcorner⟩)).elim

/-! ## The size of a window -/

/-- A quarter turn swaps the sides of a rectangle. -/
theorem sides_unturn (o : Orientation) (p : Point) (r : Rect) :
    (o.unturn p r).width = r.width ∧ (o.unturn p r).height = r.height ∨
      (o.unturn p r).width = r.height ∧ (o.unturn p r).height = r.width := by
  cases o <;> simp only [unturn, Rect.width, Rect.height] <;> omega

/-- A window is no wider and no higher than what can be seen, turned back onto the line. -/
theorem sides_visibleWindow (h : o.visibleWindow? p width height visible = some w) :
    (w.width : Int) ≤ (o.unturn p visible).width ∧
      (w.height : Int) ≤ (o.unturn p visible).height := by
  obtain ⟨hleft, htop, -, -⟩ := bounds_visibleWindow h
  have hrect := rect_visibleWindow h
  simp only [Window.rect, Rect.inter, Rect.mk.injEq] at hrect
  simp only [Window.width, Window.height, Rect.width, Rect.height]
  omega

theorem width_mul_height_le (h : o.visibleWindow? p width height visible = some w) :
    (w.width * w.height : Int) ≤ visible.width * visible.height := by
  obtain ⟨hwidth, hheight⟩ := sides_visibleWindow h
  have harea : (o.unturn p visible).width * (o.unturn p visible).height =
      visible.width * visible.height := by
    rcases sides_unturn o p visible with ⟨hw, hh⟩ | ⟨hw, hh⟩
    · rw [hw, hh]
    · rw [hw, hh, Int.mul_comm]
  calc (w.width * w.height : Int)
      ≤ (o.unturn p visible).width * (o.unturn p visible).height :=
        Int.mul_le_mul hwidth hheight (by omega) (by omega)
    _ = visible.width * visible.height := harea

/-- A window has no more dots than the canvas has pixels. -/
theorem width_mul_height_le_canvas {c : Canvas}
    (h : o.visibleWindow? p width height c.visible = some w) :
    w.width * w.height ≤ c.width * c.height := by
  have hwidth : c.visible.width = c.width := by
    simp only [Canvas.visible, Rect.width]
    omega
  have hheight : c.visible.height = c.height := by
    simp only [Canvas.visible, Rect.height]
    omega
  have harea := width_mul_height_le h
  rw [hwidth, hheight] at harea
  exact_mod_cast harea

end Orientation

/-! ## Windows in 64 bits -/

/-- A rectangle, if 64 signed bits hold each of its sides. -/
def Rect.word? (r : Rect) : Option Rect := do
  return ⟨← Decimal.word? r.left, ← Decimal.word? r.top, ← Decimal.word? r.right,
    ← Decimal.word? r.bottom⟩

/-- The dots of a line from `low` up to `high`, if there are any; a length that 64 signed bits do
not hold counts as the greatest that they do. -/
def span? (low high : Int) (length : Nat) : Option (Nat × Nat) :=
  let length : Int := min length 9223372036854775807
  let low := max 0 (min low length)
  let high := max 0 (min high length)
  if low < high then some (low.toNat, high.toNat) else none

/-- The window on the part of a line that is turned into what is visible, worked out in 64 signed
bits; nothing at all if they do not hold a side of it. -/
def Orientation.wordWindow? (o : Orientation) (p : Point) (width height : Nat) (visible : Rect) :
    Option (Option Window) := do
  let r ← (o.unturn p visible).word?
  return do
    let (left, right) ← span? r.left r.right width
    let (top, bottom) ← span? r.top r.bottom height
    return ⟨left, top, right, bottom⟩

/-- No side of a rectangle is far from the range of positions. -/
structure Rect.IsNear (r : Rect) : Prop where
  left : -2 ^ 34 ≤ r.left ∧ r.left ≤ 2 ^ 34
  top : -2 ^ 34 ≤ r.top ∧ r.top ≤ 2 ^ 34
  right : -2 ^ 34 ≤ r.right ∧ r.right ≤ 2 ^ 34
  bottom : -2 ^ 34 ≤ r.bottom ∧ r.bottom ≤ 2 ^ 34

theorem Rect.IsNear.word?_eq {r : Rect} (h : r.IsNear) : r.word? = some r := by
  have hword (side : Int) (hside : -2 ^ 34 ≤ side ∧ side ≤ 2 ^ 34) :
      Decimal.word? side = some side := if_pos (by omega)
  rw [word?, hword _ h.left, hword _ h.top, hword _ h.right, hword _ h.bottom]
  rfl

theorem span?_eq {low high : Int} (hlow : low ≤ 2 ^ 34) (hhigh : high ≤ 2 ^ 34) (length : Nat) :
    span? low high length =
      if max low 0 < min high length then some ((max low 0).toNat, (min high length).toNat)
      else none := by
  simp only [span?]
  by_cases h : max low 0 < min high length
  · rw [if_pos h, if_pos (by omega)]
    congr 2 <;> omega
  · rw [if_neg h, if_neg (by omega)]

namespace Orientation

theorem isNear_unturn {c : Canvas} (hp : Dot.Holds p.x ∧ Dot.Holds p.y)
    (hoffset : Dot.Holds c.offset.x ∧ Dot.Holds c.offset.y)
    (hsize : c.width < 2 ^ 32 ∧ c.height < 2 ^ 32) : (o.unturn p c.visible).IsNear := by
  simp only [Dot.Holds, Dot.least, Dot.greatest] at hp hoffset
  cases o <;> constructor <;> simp only [unturn, Canvas.visible] <;> omega

/-- Within the range of positions the window is the same in 64 signed bits, for a line of any
length. -/
theorem wordWindow?_eq {c : Canvas} (hp : Dot.Holds p.x ∧ Dot.Holds p.y)
    (hoffset : Dot.Holds c.offset.x ∧ Dot.Holds c.offset.y)
    (hsize : c.width < 2 ^ 32 ∧ c.height < 2 ^ 32) :
    o.wordWindow? p width height c.visible = some (o.visibleWindow? p width height c.visible) := by
  have hnear : (o.unturn p c.visible).IsNear := isNear_unturn hp hoffset hsize
  rw [wordWindow?, hnear.word?_eq, visibleWindow?]
  simp only [Option.bind_eq_bind, Option.bind_some, Option.pure_def, Option.some.injEq, Rect.inter,
    span?_eq hnear.left.2 hnear.right.2, span?_eq hnear.top.2 hnear.bottom.2]
  generalize o.unturn p c.visible = r
  by_cases hcolumns : max r.left 0 < min r.right width
  · by_cases hrows : max r.top 0 < min r.bottom height
    · simp only [if_pos hcolumns, if_pos hrows, Option.bind_some]
      exact (if_pos ⟨hcolumns, hrows⟩).symm
    · simp only [if_pos hcolumns, if_neg hrows, Option.bind_some, Option.bind_none]
      exact (if_neg fun h => hrows h.2).symm
  · simp only [if_neg hcolumns, Option.bind_none]
    exact (if_neg fun h => hcolumns h.1).symm

/-! ## Windows on a canvas -/

/-- The window of a line holds the dots that are turned onto the canvas, and only these. There is
none just when no dot is; otherwise it has a dot, lies within the line and has no more dots than
the canvas has pixels. In 64 signed bits the same window comes out. -/
theorem visibleWindow?_spec (o : Orientation) (p : Point) (width height : Nat) (c : Canvas) :
    (∀ u v : Nat, u < width → v < height →
      ((∃ w ∈ o.visibleWindow? p width height c.visible, w.rect.Contains u v) ↔
        (c.get? (o.turn p u v).x (o.turn p u v).y).isSome)) ∧
    (o.visibleWindow? p width height c.visible = none ↔
      ∀ u v : Nat, u < width → v < height → c.get? (o.turn p u v).x (o.turn p u v).y = none) ∧
    (∀ w ∈ o.visibleWindow? p width height c.visible,
      w.left < w.right ∧ w.top < w.bottom ∧ w.right ≤ width ∧ w.bottom ≤ height ∧
        w.width * w.height ≤ c.width * c.height) ∧
    (Dot.Holds p.x ∧ Dot.Holds p.y → Dot.Holds c.offset.x ∧ Dot.Holds c.offset.y →
      c.width < 2 ^ 32 ∧ c.height < 2 ^ 32 →
        o.wordWindow? p width height c.visible =
          some (o.visibleWindow? p width height c.visible)) := by
  refine ⟨fun u v hu hv => ?_, ?_, fun w hw => ?_, wordWindow?_eq⟩
  · rw [Canvas.get?_isSome_iff]
    exact exists_contains_iff hu hv
  · simp only [Canvas.get?_eq_none_iff]
    exact visibleWindow?_eq_none_iff
  · obtain ⟨hleft, htop, hright, hbottom⟩ := bounds_visibleWindow hw
    exact ⟨hleft, htop, hright, hbottom, width_mul_height_le_canvas hw⟩

/-- A line of the greatest length from the leftmost position, on a canvas at the other end of the
positions, and one that is turned away from the canvas. -/
theorem visibleWindow?_spec_ends :
    let c : Canvas := (Canvas.blank 100 50).translate 2147483647 (-2147483640)
    let p : Point := ⟨-2147483648, 2147483647⟩
    let width := 18446744073709551615
    (Dot.Holds p.x ∧ Dot.Holds p.y) ∧ (Dot.Holds c.offset.x ∧ Dot.Holds c.offset.y) ∧
      normal.wordWindow? p width 2000000000 c.visible = some (some ⟨1, 0, 101, 43⟩) ∧
      (c.get? (normal.turn p 100 42).x (normal.turn p 100 42).y).isSome ∧
      ∀ u v : Nat, u < width → v < 20 →
        c.get? (inverted.turn p u v).x (inverted.turn p u v).y = none := by
  intro c p width
  have hp : Dot.Holds p.x ∧ Dot.Holds p.y := by decide
  have hoffset : Dot.Holds c.offset.x ∧ Dot.Holds c.offset.y := by decide
  obtain ⟨hdots, -, -, hword⟩ := visibleWindow?_spec normal p width 2000000000 c
  have hwindow : normal.visibleWindow? p width 2000000000 c.visible = some ⟨1, 0, 101, 43⟩ := by
    decide
  refine ⟨hp, hoffset, ?_, ?_, ?_⟩
  · rw [hword hp hoffset (by decide), hwindow]
  · exact (hdots 100 42 (by decide) (by decide)).1 ⟨_, hwindow, by decide⟩
  · exact (visibleWindow?_spec inverted p width 20 c).2.1.1 (by decide)

end Orientation

end LabelRaster

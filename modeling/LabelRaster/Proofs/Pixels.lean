import LabelRaster.Proofs.Areas

/-!
# The pixels of pictures

A picture is copied pixel by pixel until one is missing, and its data may be longer or
shorter than its size calls for. No pixel is lost by that: as all that follow a missing
pixel are missing too, each point takes the pixel that the size puts there, if its four
bytes are present (`color?_eq`).
-/

namespace LabelRaster

namespace PictureField

/-- The number of the pixel that lies at a point of a picture, row by row. -/
def number (p : PictureField) (u v : Int) : Nat :=
  ((v - p.origin.y) * p.width + (u - p.origin.x)).toNat

/-- Whether a picture has a pixel at a point: the point lies in its rectangle, and the four bytes of
the pixel are present. -/
def HasPixel (p : PictureField) (u v : Int) : Prop :=
  (0 < p.width ∧ 0 < p.height) ∧ (0 ≤ u - p.origin.x ∧ u - p.origin.x < p.width) ∧
    (0 ≤ v - p.origin.y ∧ v - p.origin.y < p.height) ∧ 4 * p.number u v + 4 ≤ p.data.size

instance (p : PictureField) (u v : Int) : Decidable (p.HasPixel u v) :=
  inferInstanceAs (Decidable (_ ∧ _))

/-- A picture of two by two pixels with the bytes of one. -/
example :
    let p : PictureField := ⟨⟨1, 1⟩, 2, 2, #[0, 0, 0, 255]⟩
    p.HasPixel 1 1 ∧ ¬ p.HasPixel 2 1 ∧ ¬ p.HasPixel 1 2 := by decide

theorem stampNumber?_eq_number {p : PictureField} {u v : Int}
    (hu : 0 ≤ u - p.origin.x ∧ u - p.origin.x < p.width) (hv : 0 ≤ v - p.origin.y) :
    Canvas.stampNumber? p.origin.x p.origin.y p.width.toNat u v = some (p.number u v) ∧
      (p.number u v < p.width.toNat * p.height.toNat ↔ v - p.origin.y < p.height) := by
  obtain ⟨col, hcol⟩ := Int.eq_ofNat_of_zero_le hu.1
  obtain ⟨row, hrow⟩ := Int.eq_ofNat_of_zero_le hv
  obtain ⟨w, hw⟩ := Int.eq_ofNat_of_zero_le (show 0 ≤ p.width by omega)
  have hlt : col < w := by omega
  have hnumber : p.number u v = row * w + col := by
    rw [number, hcol, hrow, hw]
    exact Int.toNat_natCast (row * w + col)
  rw [Canvas.stampNumber?, if_pos (by omega), hnumber, hcol, hrow, hw, Int.toNat_natCast,
    Int.toNat_natCast, Int.toNat_natCast, Rows.number_lt_iff hlt]
  exact ⟨rfl, by omega⟩

/-- The colour of a picture at a point is the pixel there, if the picture has one. -/
theorem color?_eq (p : PictureField) (u v : Int) :
    p.color? u v = if p.HasPixel u v then Color.ofData? p.data (p.number u v) else none := by
  by_cases hcols : (0 ≤ u - p.origin.x ∧ u - p.origin.x < p.width) ∧ 0 ≤ v - p.origin.y
  · obtain ⟨hnumber, hlt⟩ := stampNumber?_eq_number hcols.1 hcols.2
    rw [color?, hnumber, Option.bind_some]
    by_cases hrow : v - p.origin.y < p.height
    · rw [if_neg (by omega), if_pos (hlt.2 hrow)]
      by_cases hbytes : 4 * p.number u v + 4 ≤ p.data.size
      · rw [if_pos ⟨by omega, hcols.1, ⟨hcols.2, hrow⟩, hbytes⟩]
      · rw [if_neg fun h => hbytes h.2.2.2]
        exact Option.not_isSome_iff_eq_none.1 (mt Color.ofData?_isSome_iff.1 hbytes)
    · rw [if_neg (mt hlt.1 hrow), ite_self, if_neg fun h => hrow h.2.2.1.2]
  · rw [if_neg fun h => hcols ⟨h.2.1, h.2.2.1.1⟩, color?]
    split
    · rfl
    · rw [Canvas.stampNumber?, if_neg (by omega), Option.bind_none]

end PictureField

/-- A picture is painted pixel by pixel: a point that can be seen takes the four bytes of the pixel
there, if the picture has one, and all other points are as they were. -/
theorem Painter.get?_paint_picture (painter : Painter) (c : Canvas) (p : PictureField) :
    (painter.paint c (.picture p)).frame = c.frame ∧
    (∀ u v, c.visible.Contains u v → p.HasPixel u v → ∃ color,
      (painter.paint c (.picture p)).get? u v = some color ∧
        p.data[4 * p.number u v]? = some color.red ∧
        p.data[4 * p.number u v + 1]? = some color.green ∧
        p.data[4 * p.number u v + 2]? = some color.blue ∧
        p.data[4 * p.number u v + 3]? = some color.alpha) ∧
    ∀ u v, ¬ (c.visible.Contains u v ∧ p.HasPixel u v) →
      (painter.paint c (.picture p)).get? u v = c.get? u v := by
  have hpaint (u v : Int) : (painter.paint c (.picture p)).get? u v =
      (c.get? u v).map fun under => (p.color? u v).getD under :=
    get?_paint_footprint painter c (e := .picture p) trivial u v
  refine ⟨painter.frame_paint c _, fun u v hseen hpixel => ?_, fun u v hnot => ?_⟩
  · obtain ⟨color, hcolor⟩ := Option.isSome_iff_exists.1 (Color.ofData?_isSome_iff.2 hpixel.2.2.2)
    obtain ⟨under, hunder⟩ := Option.isSome_iff_exists.1 (Canvas.get?_isSome_iff.2 hseen)
    refine ⟨color, ?_, Color.ofData?_eq_some_iff.1 hcolor⟩
    rw [hpaint, hunder, p.color?_eq, if_pos hpixel, hcolor]
    rfl
  · rw [hpaint]
    by_cases hseen : c.visible.Contains u v
    · rw [p.color?_eq, if_neg fun hpixel => hnot ⟨hseen, hpixel⟩]
      exact Option.map_id'
    · rw [Option.not_isSome_iff_eq_none.1 (mt Canvas.get?_isSome_iff.1 hseen)]
      rfl

end LabelRaster

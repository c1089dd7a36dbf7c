import LabelRaster.Viewport

/-!
# Content in the middle of a canvas

Content that is narrower than the canvas is moved to its middle by the offset of the
viewport. As the offset is itself a position, it ends at the rightmost one: content that
starts further to the left than that can make up for is moved as far as possible, and
comes to lie left of the middle or, from the leftmost position, partly off the canvas.
-/

namespace LabelRaster.Viewport

variable {v : Viewport} {r : Rect}

/-- The columns of the canvas to the left of some content. -/
def leftMargin (v : Viewport) (r : Rect) : Int := r.left + v.offset.x

/-- The columns of the canvas to the right of some content. -/
def rightMargin (v : Viewport) (r : Rect) : Int := v.width - (r.right + v.offset.x)

/-- No column of some content lies off the canvas. -/
def Contains (v : Viewport) (r : Rect) : Prop := 0 ≤ v.leftMargin r ∧ 0 ≤ v.rightMargin r

/-- Some content lies on the canvas, with equal margins or one more column to its right. -/
def Centres (v : Viewport) (r : Rect) : Prop :=
  v.Contains r ∧ (v.rightMargin r = v.leftMargin r ∨ v.rightMargin r = v.leftMargin r + 1)

instance (v : Viewport) (r : Rect) : Decidable (v.Contains r) := inferInstanceAs (Decidable (_ ∧ _))

instance (v : Viewport) (r : Rect) : Decidable (v.Centres r) := inferInstanceAs (Decidable (_ ∧ _))

theorem offset_centredOn (hleft : r.left ≤ Dot.greatest) (h : r.width < v.width) :
    (v.centredOn (some r)).offset.x = min ((v.width - r.width) / 2 - r.left) Dot.greatest := by
  rw [centredOn, if_pos h]
  simp only [Dot.clamp, Dot.least, Dot.greatest] at hleft ⊢
  omega

theorem centres_centredOn_iff (hleft : r.left ≤ Dot.greatest) (h : r.width < v.width) :
    (v.centredOn (some r)).Centres r ↔ (v.width - r.width) / 2 - r.left ≤ Dot.greatest := by
  have hwidth : (v.centredOn (some r)).width = v.width := by
    rw [centredOn, if_pos h]
  simp only [Centres, Contains, leftMargin, rightMargin, hwidth, offset_centredOn hleft h]
  simp only [Rect.width] at h ⊢
  omega

theorem contains_centredOn_iff (hleft : Dot.Holds r.left) (h : r.width < v.width) :
    (v.centredOn (some r)).Contains r ↔ Dot.least < r.left := by
  have hwidth : (v.centredOn (some r)).width = v.width := by
    rw [centredOn, if_pos h]
  simp only [Contains, leftMargin, rightMargin, hwidth, offset_centredOn hleft.2 h]
  simp only [Dot.Holds, Dot.least, Dot.greatest, Rect.width] at hleft h ⊢
  omega

/-- Content that is narrower than the canvas is moved to its middle if a position can hold the
offset, and onto the canvas unless it starts at the leftmost position. Nothing but the offset to the
right is changed, and not even that for content as wide as the canvas. -/
theorem centredOn_spec (v : Viewport) {r : Rect} (hleft : Dot.Holds r.left) :
    (r.width < v.width →
      ((v.centredOn (some r)).Centres r ↔ (v.width - r.width) / 2 - r.left ≤ Dot.greatest) ∧
      ((v.centredOn (some r)).Contains r ↔ Dot.least < r.left)) ∧
    (v.width ≤ r.width → v.centredOn (some r) = v) ∧ v.centredOn none = v ∧
    ∀ content, (v.centredOn content).width = v.width ∧ (v.centredOn content).height = v.height ∧
      (v.centredOn content).scale = v.scale ∧ (v.centredOn content).offset.y = v.offset.y := by
  refine ⟨fun h => ⟨centres_centredOn_iff hleft.2 h, contains_centredOn_iff hleft h⟩, fun h => ?_,
    rfl, fun content => ?_⟩
  · exact if_neg (Int.not_lt.2 h)
  · cases content with
    | none => exact ⟨rfl, rfl, rfl, rfl⟩
    | some r =>
      rw [centredOn]
      split <;> exact ⟨rfl, rfl, rfl, rfl⟩

/-- Content at the rightmost position, which comes to lie in the middle, and at the leftmost one. -/
theorem centredOn_spec_ends :
    let v : Viewport := ⟨100, 50, ⟨0, 0⟩, 1.0⟩
    let right : Rect := ⟨2147483637, 0, 2147483647, 10⟩
    let left : Rect := ⟨-2147483648, 0, -2147483638, 10⟩
    (Dot.Holds right.left ∧ Dot.Holds left.left) ∧ right.width < v.width ∧ left.width < v.width ∧
      (v.centredOn (some right)).Centres right ∧ ¬ (v.centredOn (some left)).Contains left := by
  intro v right left
  have hright : Dot.Holds right.left := by decide
  have hleft : Dot.Holds left.left := by decide
  have hnarrow : right.width < v.width ∧ left.width < v.width := by decide
  obtain ⟨hcentres, -⟩ := (v.centredOn_spec hright).1 hnarrow.1
  obtain ⟨-, hcontains⟩ := (v.centredOn_spec hleft).1 hnarrow.2
  exact ⟨⟨hright, hleft⟩, hnarrow.1, hnarrow.2, hcentres.2 (by decide),
    fun h => absurd (hcontains.1 h) (by decide)⟩

/-- From the leftmost position, content of ten columns is moved to where its first column lies off
a canvas of a hundred. -/
theorem not_centres_leftmost :
    let v : Viewport := ⟨100, 50, ⟨0, 0⟩, 1.0⟩
    let r : Rect := ⟨-2147483648, 0, -2147483638, 10⟩
    (Dot.Holds r.left ∧ Dot.Holds r.right ∧ r.left ≤ r.right ∧ r.width < v.width) ∧
      (v.centredOn (some r)).leftMargin r = -1 ∧ ¬ (v.centredOn (some r)).Centres r := by
  decide

end LabelRaster.Viewport

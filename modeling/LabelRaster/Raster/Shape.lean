import LabelRaster.Raster.Rect

/-!
# Shapes

The rectangles that lines, frames and squares are painted as. A line of thickness
`t` reaches `t / 2` dots to the left of or above the place it is drawn at, and the
remaining dots the other way; it is at least one dot thick. A size may be
negative: the shape then extends to the left or upward from where it starts.
-/

namespace LabelRaster

namespace Rect

/-- The thickness that a line is drawn with. -/
def lineThickness (thickness : Int) : Int := max thickness 1

/-- The rectangle of a given size at a point. -/
def sized (x y width height : Int) : Rect := ofCorners ⟨x, y⟩ ⟨x + width, y + height⟩

/-- A line to the right of a point, or to the left of it. -/
def horizontal (x y length thickness : Int) : Rect :=
  let t := lineThickness thickness
  ⟨min x (x + length), y - t / 2, max x (x + length), y - t / 2 + t⟩

/-- A line down from a point, or up from it. -/
def vertical (x y length thickness : Int) : Rect :=
  let t := lineThickness thickness
  ⟨x - t / 2, min y (y + length), x - t / 2 + t, max y (y + length)⟩

/-- The four lines around a rectangle: upper, lower, left, right. -/
def frame (x y width height thickness : Int) : List Rect :=
  let t := lineThickness thickness
  let r := sized x y width height
  let left := r.left - t / 2
  let top := r.top - t / 2
  let right := r.right - t / 2
  let bottom := r.bottom - t / 2
  [⟨left, top, right + t, top + t⟩, ⟨left, bottom, right + t, bottom + t⟩,
    ⟨left, top, left + t, bottom + t⟩, ⟨right, top, right + t, bottom + t⟩]

/-- A frame is its outer rectangle without the inner one. -/
theorem exists_frame_contains_iff {x y width height thickness u v : Int} :
    (∃ r ∈ frame x y width height thickness, r.Contains u v) ↔
      let t := lineThickness thickness
      let r := sized x y width height
      (r.left - t / 2 ≤ u ∧ u < r.right - t / 2 + t ∧
        r.top - t / 2 ≤ v ∧ v < r.bottom - t / 2 + t) ∧
      ¬ (r.left - t / 2 + t ≤ u ∧ u < r.right - t / 2 ∧
        r.top - t / 2 + t ≤ v ∧ v < r.bottom - t / 2) := by
  have ht : 1 ≤ lineThickness thickness := by simp only [lineThickness]; omega
  simp only [frame, List.mem_cons, List.not_mem_nil, or_false, exists_eq_or_imp, exists_eq_left,
    Contains]
  generalize lineThickness thickness = t at *
  have hx : (sized x y width height).left ≤ (sized x y width height).right := by
    simp only [sized, ofCorners]; omega
  have hy : (sized x y width height).top ≤ (sized x y width height).bottom := by
    simp only [sized, ofCorners]; omega
  generalize sized x y width height = r at *
  omega

/-- The edge between pixels that is nearest to a fractional place. -/
def edge (v : Float32) : Int := v.round.toInt64.toInt

/-- The rectangle of a fractional size at a fractional place: each edge goes to the nearest edge
between pixels. Rectangles side by side leave no gap if their common edge is one number. -/
def snapped (x y width height : Float32) : Rect :=
  ⟨edge x, edge y, edge (x + width), edge (y + height)⟩

end Rect

end LabelRaster

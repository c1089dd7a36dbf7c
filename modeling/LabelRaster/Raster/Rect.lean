/-!
# Points and rectangles

Positions on the label are in printer dots, with `y` growing downward. A
rectangle holds the points from its left and top edge up to, but not including,
its right and bottom edge.

* `contains_inter`: an intersection holds what both rectangles hold.
-/

namespace LabelRaster

/-- A position on the label, in dots. -/
structure Point where
  x : Int
  y : Int
deriving DecidableEq, Repr, Inhabited

/-- A rectangle; `right` and `bottom` lie just outside it. -/
structure Rect where
  left : Int
  top : Int
  right : Int
  bottom : Int
deriving DecidableEq, Repr, Inhabited

namespace Rect

/-- The number of columns. -/
def width (r : Rect) : Int := r.right - r.left

/-- The number of rows. -/
def height (r : Rect) : Int := r.bottom - r.top

/-- Whether a point lies in a rectangle. -/
def Contains (r : Rect) (x y : Int) : Prop :=
  r.left ≤ x ∧ x < r.right ∧ r.top ≤ y ∧ y < r.bottom

instance (r : Rect) (x y : Int) : Decidable (r.Contains x y) :=
  inferInstanceAs (Decidable (_ ∧ _ ∧ _ ∧ _))

/-- The least rectangle around two. -/
def union (r s : Rect) : Rect :=
  ⟨min r.left s.left, min r.top s.top, max r.right s.right, max r.bottom s.bottom⟩

/-- The points of both of two rectangles. -/
def inter (r s : Rect) : Rect :=
  ⟨max r.left s.left, max r.top s.top, min r.right s.right, min r.bottom s.bottom⟩

theorem contains_inter {r s : Rect} {x y : Int} :
    (r.inter s).Contains x y ↔ r.Contains x y ∧ s.Contains x y := by
  simp only [Contains, inter]; omega

/-- The rectangle with two given opposite corners. -/
def ofCorners (p q : Point) : Rect := ⟨min p.x q.x, min p.y q.y, max p.x q.x, max p.y q.y⟩

end Rect

end LabelRaster

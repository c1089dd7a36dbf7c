import Mathlib.Data.List.Basic
import LabelRaster.Proofs.Bars
import LabelRaster.Proofs.Points

/-!
# Elements moved on a label

An element that is moved paints the same colours, moved with it. Matrix symbols are left
out: their modules are placed by fractional numbers, which round differently at another
place. A barcode must end before the rightmost position both before and after the move,
since the modules that pass it are drawn on top of each other.
-/

namespace LabelRaster

/-- A point with its coordinates changed by `dx` and `dy`. -/
def Point.moved (dx dy : Int) (p : Point) : Point := ⟨p.x + dx, p.y + dy⟩

variable {dx dy : Int}

/-! ## Rectangles and patches -/

namespace Rect

/-- A rectangle with its corners moved. -/
def moved (dx dy : Int) (r : Rect) : Rect :=
  ⟨r.left + dx, r.top + dy, r.right + dx, r.bottom + dy⟩

theorem contains_moved {r : Rect} {x y : Int} :
    (r.moved dx dy).Contains (x + dx) (y + dy) ↔ r.Contains x y := by
  simp only [moved, Contains]
  omega

theorem sized_moved (x y width height : Int) :
    sized (x + dx) (y + dy) width height = (sized x y width height).moved dx dy := by
  simp only [sized, ofCorners, moved, mk.injEq]
  omega

theorem horizontal_moved (x y length thickness : Int) :
    horizontal (x + dx) (y + dy) length thickness =
      (horizontal x y length thickness).moved dx dy := by
  simp only [horizontal, moved, mk.injEq]
  omega

theorem vertical_moved (x y length thickness : Int) :
    vertical (x + dx) (y + dy) length thickness = (vertical x y length thickness).moved dx dy := by
  simp only [vertical, moved, mk.injEq]
  omega

theorem frame_moved (x y width height thickness : Int) :
    frame (x + dx) (y + dy) width height thickness =
      (frame x y width height thickness).map (moved dx dy) := by
  simp only [frame, sized_moved]
  generalize sized x y width height = r
  generalize lineThickness thickness = t
  simp only [moved, List.map_cons, List.map_nil, List.cons.injEq, mk.injEq, and_true]
  omega

end Rect

namespace Patch

/-- A patch with its rectangle moved. -/
def moved (dx dy : Int) (p : Patch) : Patch := ⟨p.rect.moved dx dy, p.color⟩

/-- Moved patches show the same colours at moved points. -/
theorem top?_moved (ps : List Patch) (x y : Int) :
    top? (ps.map (moved dx dy)) (x + dx) (y + dy) = top? ps x y := by
  simp only [top?, List.foldl_map, moved, Rect.contains_moved]

end Patch

/-! ## Elements -/

namespace Orientation

theorem dot_moved (o : Orientation) (p : Point) (x y : Int) :
    o.dot (p.moved dx dy) (x + dx) (y + dy) = o.dot p x y := by
  cases o <;> simp only [dot, Point.moved, Point.mk.injEq] <;> omega

end Orientation

namespace TextField

/-- A text lays the same ink over moved points. -/
theorem shade_moved (t : TextField) (x y : Int) (under : Color) :
    shade { t with origin := t.origin.moved dx dy } (x + dx) (y + dy) under =
      t.shade x y under := by
  simp only [shade, Orientation.dot_moved]
  rfl

end TextField

namespace BoxField

theorem patches_moved (b : BoxField) :
    patches { b with origin := b.origin.moved dx dy } = b.patches.map (Patch.moved dx dy) := by
  simp only [patches, Point.moved, Rect.vertical_moved, Rect.horizontal_moved, Rect.frame_moved]
  split
  · rfl
  · split
    · rfl
    · split
      · rfl
      · rw [List.map_map, List.map_map]
        rfl

end BoxField

namespace BarField

/-- The modules of a barcode keep their places as long as none passes the last position. -/
theorem patches_moved {b : BarField} (hl : Dot.least ≤ b.origin.x)
    (hl' : Dot.least ≤ b.origin.x + dx) (hg : b.rightEnd ≤ Dot.greatest)
    (hg' : b.rightEnd + dx ≤ Dot.greatest) :
    patches { b with origin := b.origin.moved dx dy } = b.patches.map (Patch.moved dx dy) := by
  have hend : rightEnd { b with origin := b.origin.moved dx dy } = b.rightEnd + dx := by
    simp only [rightEnd, Point.moved]
    omega
  rw [patches_eq hl hg, patches_eq hl' (hend ▸ hg'), List.map_map]
  refine List.map_congr_left fun i _ => ?_
  simp only [modulePatch, Point.moved, Function.comp_apply, Patch.moved, ← Rect.sized_moved]
  rw [Int.add_right_comm]

end BarField

namespace PictureField

theorem color?_moved (p : PictureField) (x y : Int) :
    color? { p with origin := p.origin.moved dx dy } (x + dx) (y + dy) = p.color? x y := by
  have hnumber (width : Nat) :
      Canvas.stampNumber? (p.origin.x + dx) (p.origin.y + dy) width (x + dx) (y + dy) =
        Canvas.stampNumber? p.origin.x p.origin.y width x y := by
    have hx : x + dx - (p.origin.x + dx) = x - p.origin.x := by omega
    have hy : y + dy - (p.origin.y + dy) = y - p.origin.y := by omega
    have hin : (p.origin.x + dx ≤ x + dx ∧ x + dx < p.origin.x + dx + width ∧
        p.origin.y + dy ≤ y + dy) ↔
          (p.origin.x ≤ x ∧ x < p.origin.x + width ∧ p.origin.y ≤ y) := by omega
    simp only [Canvas.stampNumber?, hx, hy, hin]
  simp only [color?, Point.moved, hnumber]

end PictureField

namespace Element

/-- An element at another place. -/
def placedAt (q : Point) : Element → Element
  | text f => .text { f with origin := q }
  | box f => .box { f with origin := q }
  | bars f => .bars { f with origin := q }
  | matrix f => .matrix { f with origin := q }
  | picture f => .picture { f with origin := q }

/-- An element moved on the label. -/
def moved (dx dy : Int) (e : Element) : Element := e.placedAt (e.origin.moved dx dy)

/-- Whether an element ends within the range of positions, before it is moved sideways by `dx` and
after. -/
def Movable (dx : Int) (e : Element) : Prop :=
  Dot.Holds e.origin.x ∧ Dot.Holds (e.origin.x + dx) ∧
    match e with
    | bars b => b.rightEnd ≤ Dot.greatest ∧ b.rightEnd + dx ≤ Dot.greatest
    | matrix _ => False
    | text _ | box _ | picture _ => True

/-- A moved element paints the same colours at moved points. -/
theorem shade_moved (generator : Symbol.Generator) {e : Element} (he : e.Movable dx) (x y : Int)
    (under : Color) :
    (e.moved dx dy).shade generator (x + dx) (y + dy) under = e.shade generator x y under := by
  obtain ⟨hx, hx', hkind⟩ := he
  cases e with
  | text t => exact t.shade_moved x y under
  | box b =>
    change (Patch.top? (BoxField.patches { b with origin := b.origin.moved dx dy }) _ _).getD _ = _
    rw [b.patches_moved, Patch.top?_moved]
    rfl
  | bars b =>
    change (Patch.top? (BarField.patches { b with origin := b.origin.moved dx dy }) _ _).getD _ = _
    rw [BarField.patches_moved hx.1 hx'.1 hkind.1 hkind.2, Patch.top?_moved]
    rfl
  | matrix m => exact hkind.elim
  | picture p => exact congrArg (Option.getD · under) (p.color?_moved x y)

end Element

/-- A document whose elements are moved has the same colours at moved points. -/
theorem Document.color_map_moved (generator : Symbol.Generator) (background : Color)
    {es : List Element} (hes : ∀ e ∈ es, e.Movable dx) (w w' : Option Nat) (x y : Int) :
    (⟨es.map (Element.moved dx dy), w⟩ : Document).color generator background (x + dx) (y + dy) =
      (⟨es, w'⟩ : Document).color generator background x y := by
  rw [color, color, List.foldl_map]
  exact List.foldl_ext _ _ _ fun under e he =>
    Element.shade_moved generator (hes e he) x y under

end LabelRaster

import LabelRaster.Label.Extent
import LabelRaster.Proofs.Areas

/-!
# What is painted lies where it was estimated

The size of a label and the centring of its content follow from an estimate of what
each element covers, while the painting goes its own way: it counts the modules of a
barcode in the pattern that is built, at the width that fits the label, and lays the
lines of a box across its edges. What is painted still lies in the estimated rectangle,
or for a box in that rectangle and its lines, as long as the estimate ends within the
range of positions (`contains_of_footprint`).
-/

namespace LabelRaster

open Dot (Holds)

/-! ## Rectangles -/

/-- A rectangle with lines of a thickness laid across its edges. -/
def Rect.stroked (thickness : Int) (r : Rect) : Rect :=
  let t := lineThickness thickness
  ⟨r.left - t / 2, r.top - t / 2, r.right - t / 2 + t, r.bottom - t / 2 + t⟩

/-! ## Elements -/

/-- A box is drawn across the edges of the rectangle that it spans. -/
theorem BoxField.contains_of_inks {b : BoxField} {u v : Int} (h : b.Inks u v) :
    ((Rect.sized b.origin.x b.origin.y b.width b.height).stroked b.thickness).Contains u v := by
  simp only [Inks] at h
  simp only [Rect.stroked, Rect.lineThickness, Rect.sized, Rect.ofCorners, Rect.Contains]
  omega

/-- A barcode is drawn in the rectangle that it takes at the module width that it declares. -/
theorem BarField.contains_of_inks {b : BarField} (hwidth : 1 ≤ b.moduleWidth) {u v : Int}
    (h : b.Inks u v) :
    (⟨b.origin.x, b.origin.y,
      b.origin.x + (Symbol.Bars.moduleCount b.content * b.moduleWidth : Nat),
      b.origin.y + Element.capped b.height⟩ : Rect).Contains u v := by
  have hend := b.rightEnd_le hwidth
  obtain ⟨hu, hv, -⟩ := h
  simp only [Rect.Contains, Element.capped]
  omega

/-- The pixels of a picture lie in the rectangle of its size. -/
theorem PictureField.contains_of_picture {p : PictureField} {u v : Int}
    (h : (p.color? u v).isSome) :
    (Rect.sized p.origin.x p.origin.y p.width p.height).Contains u v := by
  rw [color?] at h
  split at h
  · cases h
  · rename_i hsize
    obtain ⟨color, hcolor⟩ := Option.isSome_iff_exists.1 h
    obtain ⟨k, hk, hcolor⟩ := Option.bind_eq_some_iff.1 hcolor
    simp only [Option.ite_none_right_eq_some] at hcolor
    simp only [Canvas.stampNumber?, Option.ite_none_right_eq_some, Option.some.injEq] at hk
    obtain ⟨hin, rfl⟩ := hk
    have hlt : (v - p.origin.y).toNat < p.height.toNat := by
      refine Nat.lt_of_mul_lt_mul_right (a := p.width.toNat) ?_
      rw [Nat.mul_comm p.height.toNat]
      omega
    simp only [Rect.sized, Rect.ofCorners, Rect.Contains]
    omega

namespace Element

/-- Whether the rectangle of a box, a picture or a barcode ends within the range of positions. A
barcode has a module width, and its modules are no wider together than a position can hold. -/
def Estimable (generator : Symbol.Generator) (e : Element) : Prop :=
  (Holds e.origin.x ∧ Holds e.origin.y) ∧
    (∀ size ∈ e.extent? generator,
      Holds (e.origin.x + size.1) ∧ Holds (e.origin.y + size.2)) ∧
    match e with
    | box _ | picture _ => True
    | bars b =>
      1 ≤ b.moduleWidth ∧
        (Symbol.Bars.moduleCount b.content * b.moduleWidth : Nat) ≤ Dot.greatest
    | text _ | matrix _ => False

/-- The rectangle in which an element is painted, given the one that it is estimated to cover. -/
def painted (r : Rect) : Element → Rect
  | box b => r.stroked b.thickness
  | text _ | bars _ | matrix _ | picture _ => r

variable {generator : Symbol.Generator} {e : Element}

theorem Estimable.isCovering (he : e.Estimable generator) : e.IsCovering := by
  obtain ⟨-, -, hkind⟩ := he
  cases e with
  | text t => exact hkind.elim
  | _ => trivial

/-- An estimate that ends within the range of positions is not cut off. -/
theorem Estimable.bounds? (he : e.Estimable generator) {width height : Int}
    (h : e.extent? generator = some (width, height)) :
    e.bounds? generator = some (Rect.sized e.origin.x e.origin.y width height) := by
  obtain ⟨hx, hy⟩ := he.2.1 _ h
  have hcorner : (⟨Dot.add e.origin.x width, Dot.add e.origin.y height⟩ : Point) =
      ⟨e.origin.x + width, e.origin.y + height⟩ := by
    rw [Dot.add_of_mem hx.1 hx.2, Dot.add_of_mem hy.1 hy.2]
  rw [Element.bounds?, h, Option.map_some]
  exact congrArg (fun q => some (Rect.ofCorners e.origin q)) hcorner

/-- What an element covers lies in the rectangle that it was estimated to cover. -/
theorem Estimable.contains_of_footprint (he : e.Estimable generator) :
    ∃ r, e.bounds? generator = some r ∧
      ∀ x y, (e.footprint? generator x y).isSome → (e.painted r).Contains x y := by
  cases e with
  | text t => exact he.2.2.elim
  | matrix m => exact he.2.2.elim
  | box b =>
    refine ⟨_, he.bounds? rfl, fun x y h => BoxField.contains_of_inks ?_⟩
    rwa [footprint?, b.top?_patches, Option.isSome_ite] at h
  | picture p => exact ⟨_, he.bounds? rfl, fun x y h => p.contains_of_picture h⟩
  | bars b =>
    refine ⟨_, he.bounds? rfl, fun x y h => ?_⟩
    obtain ⟨⟨hx, hy⟩, hsize, hwidth, hcount⟩ := he
    have hcapped : capped (Symbol.Bars.moduleCount b.content * b.moduleWidth) =
        (Symbol.Bars.moduleCount b.content * b.moduleWidth : Nat) := by
      rw [capped]
      omega
    have hend := (hsize _ rfl).1.2
    rw [hcapped] at hend
    rw [footprint?, b.top?_patches hx.1 (Int.le_trans (b.rightEnd_le hwidth) hend),
      Option.isSome_ite] at h
    have hin := BarField.contains_of_inks hwidth h
    simp only [painted, Rect.sized, Rect.ofCorners, origin, hcapped]
    simp only [Rect.Contains, capped] at hin ⊢
    omega

end Element

namespace Painter

/-- Every pixel that the painting of an element changes lies in the rectangle that the element was
estimated to cover, and for a box in that rectangle with lines across its edges. -/
theorem contains_of_paint_ne (painter : Painter) {e : Element}
    (he : e.Estimable painter.generator) :
    ∃ r, e.bounds? painter.generator = some r ∧
      ∀ (c : Canvas) (x y : Int), (painter.paint c e).get? x y ≠ c.get? x y →
        (e.painted r).Contains x y := by
  obtain ⟨r, hr, hfootprint⟩ := he.contains_of_footprint
  refine ⟨r, hr, fun c x y hne => hfootprint x y ?_⟩
  by_contra hnone
  rw [Bool.not_eq_true, Option.isSome_eq_false_iff, Option.isNone_iff_eq_none] at hnone
  rw [get?_paint_footprint painter c he.isCovering, hnone] at hne
  simp at hne

/-- The last dark module of a barcode that is shrunk to fit, and a box to the left of its origin. -/
theorem contains_of_paint_ne_shrunk :
    let painter : Painter := ⟨fun _ => .error .tooLong, .bitmap, .white⟩
    let bars : BarField := ⟨⟨5, 6⟩, 30, 5, "123456789012345"⟩
    let box : Element := .box ⟨⟨5, 4⟩, -3, -9, 3⟩
    let c := painter.canvas ⟨4, 2, ⟨-416, -7⟩, 1.0⟩
    let d := painter.canvas ⟨4, 2, ⟨-1, 6⟩, 1.0⟩
    (Element.bars bars).Estimable painter.generator ∧ box.Estimable painter.generator ∧
      Symbol.Bars.fittedModuleWidth bars.content bars.moduleWidth = 4 ∧
      (painter.paint c (.bars bars)).get? 417 7 ≠ c.get? 417 7 ∧
      (⟨5, 6, 530, 36⟩ : Rect).Contains 417 7 ∧
      (painter.paint d box).get? 1 (-6) ≠ d.get? 1 (-6) ∧
      (⟨1, -6, 7, 6⟩ : Rect).Contains 1 (-6) := by
  intro painter bars box c d
  have hbars : (Element.bars bars).Estimable painter.generator :=
    ⟨by decide, fun size h => by cases h; decide, by decide⟩
  have hbox : box.Estimable painter.generator :=
    ⟨by decide, fun size h => by cases h; decide, trivial⟩
  have hmodule : (painter.paint c (.bars bars)).get? 417 7 ≠ c.get? 417 7 := by decide +kernel
  have hcorner : (painter.paint d box).get? 1 (-6) ≠ d.get? 1 (-6) := by decide +kernel
  obtain ⟨r, hr, hin⟩ := contains_of_paint_ne painter hbars
  obtain ⟨s, hs, hin'⟩ := contains_of_paint_ne painter hbox
  have hr' : (⟨5, 6, 530, 36⟩ : Rect) = r := by
    rw [← Option.some_inj, ← hr]
    decide
  have hs' : (⟨1, -6, 7, 6⟩ : Rect) = s.stroked 3 := by
    have hbounds : box.bounds? painter.generator = some ⟨2, -5, 5, 4⟩ := by decide
    obtain rfl := Option.some.inj (hbounds.symm.trans hs)
    decide
  exact ⟨hbars, hbox, by decide, hmodule, hr' ▸ hin c 417 7 hmodule, hcorner,
    hs' ▸ hin' d 1 (-6) hcorner⟩

end Painter

end LabelRaster

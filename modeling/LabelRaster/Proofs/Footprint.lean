import Mathlib.Data.List.Induction
import Mathlib.Logic.Basic
import LabelRaster.Proofs.Points

/-!
# The order of painting

Every element but a text covers what lies under it. The points that it covers, and the
colours that it covers them with, are its footprint, which its own fields and the
generator decide. So of elements painted in order the last one at a point shows
(`foldl_footprint`), and nothing below that element matters.
-/

namespace LabelRaster

namespace Element

/-- Whether an element covers what lies under it; the ink of a text mixes with it. -/
def IsCovering : Element → Prop
  | text _ => False
  | box _ | bars _ | matrix _ | picture _ => True

instance : DecidablePred IsCovering
  | text _ => inferInstanceAs (Decidable False)
  | box _ | bars _ | matrix _ | picture _ => inferInstanceAs (Decidable True)

/-- The colour that an element covers a point with, if it covers it. -/
def footprint? (generator : Symbol.Generator) (x y : Int) : Element → Option Color
  | text _ => none
  | box b => Patch.top? b.patches x y
  | bars b => Patch.top? b.patches x y
  | matrix m => Patch.top? (m.patches generator) x y
  | picture p => p.color? x y

/-- The colour that elements painted in order cover a point with: that of the last one there. -/
def topmost? (generator : Symbol.Generator) (x y : Int) (es : List Element) : Option Color :=
  (es.filterMap (footprint? generator x y)).getLast?

variable {generator : Symbol.Generator} {x y : Int}

theorem topmost?_append (es fs : List Element) :
    topmost? generator x y (es ++ fs) =
      (topmost? generator x y fs).or (topmost? generator x y es) := by
  rw [topmost?, List.filterMap_append, List.getLast?_append]
  rfl

theorem topmost?_isSome_iff {es : List Element} :
    (topmost? generator x y es).isSome ↔ ∃ e ∈ es, (e.footprint? generator x y).isSome := by
  simp only [topmost?, List.getLast?_isSome, ne_eq, List.filterMap_eq_nil_iff, not_forall,
    ← Option.isSome_iff_ne_none, exists_prop]

theorem topmost?_of_footprint?_eq_none {e : Element} (h : e.footprint? generator x y = none)
    (before after : List Element) :
    topmost? generator x y (before ++ e :: after) = topmost? generator x y (before ++ after) := by
  simp only [topmost?, List.filterMap_append, List.filterMap_cons, h]

/-- Of elements painted in order, the last one at a point shows. -/
theorem foldl_footprint (es : List Element) (under : Color) :
    es.foldl (fun under e => (e.footprint? generator x y).getD under) under =
      (topmost? generator x y es).getD under := by
  induction es using List.reverseRecOn with
  | nil => rfl
  | append_singleton es e ih =>
    rw [List.foldl_append, ih, topmost?_append]
    cases h : e.footprint? generator x y <;> simp [topmost?, h]

end Element

namespace Painter

/-- An element that covers recolours its footprint and nothing else, on any canvas. -/
theorem get?_paint_footprint (painter : Painter) (c : Canvas) {e : Element} (he : e.IsCovering)
    (x y : Int) :
    (painter.paint c e).get? x y =
      (c.get? x y).map fun under => (e.footprint? painter.generator x y).getD under := by
  cases e with
  | text t => exact he.elim
  | box b => exact Canvas.get?_paint ..
  | bars b => exact Canvas.get?_paint ..
  | matrix m => exact Canvas.get?_paint ..
  | picture p => exact get?_paint painter.generator painter.background c (.picture p) x y

theorem get?_foldl_footprint (painter : Painter) (c : Canvas) {es : List Element}
    (hes : ∀ e ∈ es, e.IsCovering) (x y : Int) :
    (es.foldl painter.paint c).get? x y =
      (c.get? x y).map fun under => (Element.topmost? painter.generator x y es).getD under := by
  rw [funext fun under => (Element.foldl_footprint es under).symm]
  induction es generalizing c with
  | nil => simp only [List.foldl_nil, Option.map_id']
  | cons e es ih =>
    rw [List.forall_mem_cons] at hes
    rw [List.foldl_cons, ih _ hes.2, get?_paint_footprint painter c hes.1, Option.map_map]
    rfl

/-- The colour at a logical position in the picture of a document. -/
def color? (painter : Painter) (d : Document) (v : Viewport) (x y : Int) : Option Color :=
  (painter.render d v).bind fun p => v.pixel? p x y

theorem color?_eq_topmost? (painter : Painter) {d : Document} (hd : ∀ e ∈ d.elements, e.IsCovering)
    {v : Viewport} (hv : v.Accepted) {x y : Int} (h : v.Shows x y) :
    painter.color? d v x y =
      some ((Element.topmost? painter.generator x y d.elements).getD painter.background) := by
  rw [color?, render_eq hv, Option.bind_some,
    Viewport.pixel?_picture (frame_painted _ hv _) h,
    get?_foldl_footprint _ _ hd, get?_canvas _ hv h, Option.map_some]

/-- At each point a picture shows the last element that covers it, or the background. So what lies
below such an element does not matter there, and an element changes nothing off its footprint. -/
theorem color?_footprint (painter : Painter) {v : Viewport} (hv : v.Accepted) {x y : Int}
    (h : v.Shows x y) :
    (∀ d : Document, (∀ e ∈ d.elements, e.IsCovering) →
      painter.color? d v x y =
        some ((Element.topmost? painter.generator x y d.elements).getD painter.background)) ∧
    (∀ below below' above w, (∀ e ∈ below ++ below' ++ above, e.IsCovering) →
      (∃ e ∈ above, (e.footprint? painter.generator x y).isSome) →
      painter.color? ⟨below ++ above, w⟩ v x y = painter.color? ⟨below' ++ above, w⟩ v x y) ∧
    (∀ below e above w, (∀ f ∈ below ++ e :: above, f.IsCovering) →
      e.footprint? painter.generator x y = none →
      painter.color? ⟨below ++ e :: above, w⟩ v x y =
        painter.color? ⟨below ++ above, w⟩ v x y) := by
  refine ⟨fun d hd => painter.color?_eq_topmost? hd hv h, ?_, ?_⟩
  · intro below below' above w hcovering hcovered
    simp only [List.forall_mem_append] at hcovering
    obtain ⟨color, hcolor⟩ :=
      Option.isSome_iff_exists.1 (Element.topmost?_isSome_iff.2 hcovered)
    rw [painter.color?_eq_topmost? (List.forall_mem_append.2 ⟨hcovering.1.1, hcovering.2⟩) hv h,
      painter.color?_eq_topmost? (List.forall_mem_append.2 ⟨hcovering.1.2, hcovering.2⟩) hv h]
    simp only [Element.topmost?_append, hcolor, Option.some_or]
  · intro below e above w hcovering hnone
    have hrest : ∀ f ∈ below ++ above, f.IsCovering := fun f hf =>
      hcovering f (((List.sublist_cons_self e above).append_left below).subset hf)
    rw [painter.color?_eq_topmost? hcovering hv h, painter.color?_eq_topmost? hrest hv h]
    simp only [Element.topmost?_of_footprint?_eq_none hnone]

/-- A rule covers a part of a symbol, and ends before a barcode begins. -/
theorem color?_footprint_rule :
    let generator : Symbol.Generator := fun _ => .ok (.tabulate 2 fun row col => row == col)
    let painter : Painter := ⟨generator, .bitmap, .white⟩
    let v : Viewport := ⟨40, 30, ⟨-9, -3⟩, 1.0⟩
    let symbol : Element := .matrix ⟨⟨9, 2⟩, 4, none, "x"⟩
    let rule : Element := .box ⟨⟨3, 4⟩, 20, 0, 3⟩
    let bars : Element := .bars ⟨⟨30, 0⟩, 5, 1, "a"⟩
    v.Accepted ∧ v.Shows 10 4 ∧
      painter.color? ⟨[rule], none⟩ v 10 4 = some .black ∧
      painter.color? ⟨[symbol, rule], none⟩ v 10 4 = painter.color? ⟨[rule], none⟩ v 10 4 ∧
      painter.color? ⟨[rule, bars], none⟩ v 10 4 = painter.color? ⟨[rule], none⟩ v 10 4 := by
  intro generator painter v symbol rule bars
  have hv : v.Accepted := by decide
  have hs : v.Shows 10 4 := by decide
  obtain ⟨hcolor, hbelow, hoff⟩ := color?_footprint painter hv hs
  refine ⟨hv, hs, ?_, ?_, ?_⟩
  · rw [hcolor ⟨[rule], none⟩ (by decide)]
    decide
  · exact hbelow [symbol] [] [rule] none (by decide) (by decide)
  · exact hoff [rule] bars [] none (by decide) (by decide)

end Painter

end LabelRaster

import Mathlib.Data.List.Basic
import LabelRaster.Label.Size
import LabelRaster.Proofs.Points

/-!
# Symbols that cannot be encoded

A generator may refuse the content of a matrix symbol. The estimate of the label's size
and the painting each ask the generator anew, and both pass over such a symbol: without a
side of its own it leaves no more trace than if it were not there, wherever it stands, and
as often as it stands there (`contentBounds?_filter`, `foldl_paint_filter`).
-/

namespace LabelRaster

namespace Element

/-- Whether an element is a matrix symbol whose content the generator refuses. -/
def isRefused (generator : Symbol.Generator) : Element → Bool
  | matrix m => !(generator m.content).isOk
  | text _ | box _ | bars _ | picture _ => false

variable {generator : Symbol.Generator} {e : Element}

/-- What is refused is a symbol whose content has no grid. -/
theorem exists_of_isRefused (h : e.isRefused generator = true) :
    ∃ m refusal, e = .matrix m ∧ generator m.content = .error refusal := by
  cases e with
  | matrix m =>
    cases hg : generator m.content with
    | ok grid => simp [isRefused, hg, Except.isOk, Except.toBool] at h
    | error refusal => exact ⟨m, refusal, rfl, hg⟩
  | _ => cases h

theorem bounds?_of_isRefused (h : e.isRefused generator = true)
    (hside : ∀ m, e = .matrix m → m.side = none) : e.bounds? generator = none := by
  obtain ⟨m, refusal, rfl, hg⟩ := exists_of_isRefused h
  have hside : m.side? = none := by
    rw [MatrixField.side?, hside m rfl, Option.filter_none]
  rw [bounds?, extent?, hside]
  simp only [hg, Option.map_none]

end Element

theorem Painter.paint_of_isRefused {painter : Painter} {e : Element}
    (h : e.isRefused painter.generator = true) (c : Canvas) : painter.paint c e = c := by
  obtain ⟨m, refusal, rfl, hg⟩ := Element.exists_of_isRefused h
  rw [paint, MatrixField.patches_of_error hg]
  rfl

/-! ## Elements that may be dropped -/

/-- An element that covers nothing does not count among the others. -/
theorem contentBounds?_filter {generator : Symbol.Generator} {es : List Element}
    {keep : Element → Bool} (h : ∀ e ∈ es, keep e = false → e.bounds? generator = none) :
    contentBounds? generator (es.filter keep) = contentBounds? generator es := by
  rw [contentBounds?, contentBounds?, List.filterMap_filter]
  congr 1
  refine List.filterMap_congr fun e he => ?_
  cases hk : keep e with
  | false => exact (h e he hk).symm
  | true => rfl

/-- An element that is not painted does not count among the others. -/
theorem Painter.foldl_paint_filter {painter : Painter} {es : List Element} {keep : Element → Bool}
    (h : ∀ e ∈ es, keep e = false → ∀ c, painter.paint c e = c) (c : Canvas) :
    (es.filter keep).foldl painter.paint c = es.foldl painter.paint c := by
  rw [List.foldl_filter]
  refine List.foldl_ext _ _ _ fun c e he => ?_
  cases hk : keep e with
  | false => exact (h e he hk c).symm
  | true => rfl

namespace Document

/-- A document without the matrix symbols whose contents the generator refuses. -/
def withoutRefused (generator : Symbol.Generator) (d : Document) : Document :=
  { d with elements := d.elements.filter (!·.isRefused generator) }

theorem contentBounds?_withoutRefused {generator : Symbol.Generator} {d : Document}
    (hd : ∀ m, .matrix m ∈ d.elements → m.side = none) :
    contentBounds? generator (d.withoutRefused generator).elements =
      contentBounds? generator d.elements :=
  contentBounds?_filter fun e he hrefused =>
    Element.bounds?_of_isRefused (by simpa using hrefused) fun m hm => hd m (hm ▸ he)

theorem size_withoutRefused {generator : Symbol.Generator} {d : Document}
    (hd : ∀ m, .matrix m ∈ d.elements → m.side = none) :
    (d.withoutRefused generator).size generator = d.size generator := by
  simp only [size, reach?, contentBounds?_withoutRefused hd]
  rfl

end Document

namespace Painter

/-- A matrix symbol that the generator refuses leaves no trace: without it the content of a label
reaches as far, the label has the same size and is centred alike, and its picture is the same. -/
theorem render_withoutRefused (painter : Painter) {d : Document}
    (hd : ∀ m, .matrix m ∈ d.elements → m.side = none) :
    let d' := d.withoutRefused painter.generator
    let content (d : Document) := contentBounds? painter.generator d.elements
    content d' = content d ∧ d'.size painter.generator = d.size painter.generator ∧
      (∀ v : Viewport, v.centredOn (content d') = v.centredOn (content d)) ∧
      ∀ v : Viewport, v.Accepted →
        ∃ picture, painter.render d' v = some picture ∧ painter.render d v = some picture := by
  intro d' content
  have hcontent : content d' = content d := Document.contentBounds?_withoutRefused hd
  refine ⟨hcontent, Document.size_withoutRefused hd, fun v => by rw [hcontent], fun v hv => ?_⟩
  have hpaint : d'.elements.foldl painter.paint (painter.canvas v) =
      d.elements.foldl painter.paint (painter.canvas v) :=
    foldl_paint_filter (fun e _ hrefused => paint_of_isRefused (by simpa using hrefused)) _
  exact ⟨_, render_eq hv d', hpaint ▸ render_eq hv d⟩

/-- Two refused symbols around one that is not, on a label that is centred. -/
theorem render_withoutRefused_between :
    let generator : Symbol.Generator := fun content =>
      if content = "x" then .ok (.tabulate 2 fun row col => row == col) else .error .tooLong
    let painter : Painter := ⟨generator, .bitmap, .white⟩
    let kept : Element := .matrix ⟨⟨9, 2⟩, 4, none, "x"⟩
    let d : Document := ⟨[.matrix ⟨⟨-90, 0⟩, 9, none, "y"⟩, kept, .matrix ⟨⟨70, 80⟩, 3, none, ""⟩],
      none⟩
    let v : Viewport := ⟨40, 30, ⟨-9, -3⟩, 1.0⟩
    (∀ m, .matrix m ∈ d.elements → m.side = none) ∧ v.Accepted ∧
      (d.withoutRefused generator).elements = [kept] ∧
      contentBounds? generator d.elements = some ⟨9, 2, 17, 10⟩ ∧
      contentBounds? generator [kept] = contentBounds? generator d.elements ∧
      ∃ picture, painter.render ⟨[kept], none⟩ v = some picture ∧
        painter.render d v = some picture := by
  intro generator painter kept d v
  have hd : ∀ m, .matrix m ∈ d.elements → m.side = none := by simp [d, kept]
  have hv : v.Accepted := by decide
  have hkept : d.withoutRefused generator = ⟨[kept], none⟩ := by decide
  obtain ⟨hcontent, -, -, hrender⟩ := render_withoutRefused painter hd
  have hrender := hrender v hv
  simp only [painter, hkept] at hcontent hrender
  exact ⟨hd, hv, by rw [hkept], by decide, hcontent, hrender⟩

end Painter

end LabelRaster

import LabelRaster.Label.Size
import LabelRaster.Proofs.Hull

/-!
# The growth of a label

The size of a label follows the far ends of its content. One more element moves an end
to where the element ends itself, if that is further out, and never back: the label
grows by what the element reaches beyond its content (`grows_insert`). While the content
does not pass the corner of the label, the size is a default one instead, which gives way
to the first element that passes the corner, be it a smaller one.
-/

namespace LabelRaster

/-- How the length of a label follows an element that is added, from `before` to `after`. Without
the element the content ends at `content?`; the element ends at `stop`. -/
structure Grows (content? : Option Int) (stop : Int) (default before after : Nat) : Prop where
  /-- A length that the content gives is extended to the end of the element. -/
  of_pos : ∀ v ∈ content?, 0 < v → (after : Int) = max (before : Int) stop
  /-- It is extended by what the element reaches beyond the content. -/
  excess : ∀ v ∈ content?, 0 < v → v < stop → (after : Int) - before = stop - v
  /-- The default gives way to an element that passes the corner of the label. -/
  of_nonpos : (∀ v ∈ content?, v ≤ 0) → (after : Int) = if 0 < stop then stop else default

namespace Document

variable {generator : Symbol.Generator} {d : Document} {far : Rect → Int}

theorem length_of_pos {v : Int} (h : (contentBounds? generator d.elements).map far = some v)
    (hpos : 0 < v) (default : Nat) : ((d.reach? generator far).getD default : Int) = v := by
  rw [reach?, h, Option.filter_some_pos (by simpa using hpos), Option.map_some, Option.getD_some]
  exact Int.toNat_of_nonneg (Int.le_of_lt hpos)

theorem length_of_nonpos (h : ∀ v ∈ (contentBounds? generator d.elements).map far, v ≤ 0)
    (default : Nat) : (d.reach? generator far).getD default = default := by
  rw [reach?, Option.filter_eq_none_iff.2, Option.map_none, Option.getD_none]
  intro v hv
  have := h v hv
  simpa using this

/-- Content ends where it did before an element was added, or where the element does. Any end will
do that the union of two rectangles takes from the one that reaches further. -/
theorem map_contentBounds?_insert (hfar : ∀ r s : Rect, far (r.union s) = max (far r) (far s))
    {e : Element} {b : Rect} (hb : e.bounds? generator = some b) (before after : List Element) :
    (contentBounds? generator (before ++ e :: after)).map far =
      (some (far b)).merge max ((contentBounds? generator (before ++ after)).map far) := by
  rw [contentBounds?_insert, hb]
  cases contentBounds? generator (before ++ after) with
  | none => rfl
  | some r => exact congrArg some (hfar b r)

theorem grows_insert (hfar : ∀ r s : Rect, far (r.union s) = max (far r) (far s)) {e : Element}
    {b : Rect} (hb : e.bounds? generator = some b) (before after : List Element) (w : Option Nat)
    (default : Nat) :
    Grows ((contentBounds? generator (before ++ after)).map far) (far b) default
      (((⟨before ++ after, w⟩ : Document).reach? generator far).getD default)
      (((⟨before ++ e :: after, w⟩ : Document).reach? generator far).getD default) := by
  have hends := map_contentBounds?_insert hfar hb before after
  have hlengths (v : Int) (hv : v ∈ (contentBounds? generator (before ++ after)).map far)
      (hpos : 0 < v) :
      (((⟨before ++ after, w⟩ : Document).reach? generator far).getD default : Int) = v ∧
        (((⟨before ++ e :: after, w⟩ : Document).reach? generator far).getD default : Int) =
          max (far b) v := by
    rw [hv, Option.merge_some_some] at hends
    exact ⟨length_of_pos hv hpos default, length_of_pos hends (by omega) default⟩
  refine ⟨fun v hv hpos => ?_, fun v hv hpos hlt => ?_, fun hcontent => ?_⟩
  · have := hlengths v hv hpos
    omega
  · have := hlengths v hv hpos
    omega
  · -- The content does not pass the corner, so together with the element it ends where that does.
    split
    · rename_i hpos
      refine length_of_pos ?_ hpos default
      rw [hends]
      cases hv : (contentBounds? generator (before ++ after)).map far with
      | none => rfl
      | some v =>
        have := hcontent v hv
        rw [Option.merge_some_some, Int.max_eq_left (by omega)]
    · rw [length_of_nonpos]
      intro v hv
      rw [hends] at hv
      rcases Option.merge_eq_some_iff.1 hv with ⟨h, -⟩ | ⟨h, -⟩ | ⟨u, v', hu, hv', rfl⟩
      · cases h
        omega
      · cases h
      · cases hu
        have := hcontent v' hv'
        omega

/-- Both sides of a label follow an element put anywhere among the others, but for a width that is
declared. -/
theorem size_insert (generator : Symbol.Generator) (before after : List Element) (e : Element)
    (w : Option Nat) :
    let content? := contentBounds? generator (before ++ after)
    let size := (⟨before ++ after, w⟩ : Document).size generator
    let size' := (⟨before ++ e :: after, w⟩ : Document).size generator
    (∀ b ∈ e.bounds? generator,
      Grows (content?.map Rect.bottom) b.bottom 900 size.height size'.height ∧
        (w = none → Grows (content?.map Rect.right) b.right 596 size.width size'.width)) ∧
    (∀ n ∈ w, size.width = n ∧ size'.width = n) ∧
    (e.bounds? generator = none → size' = size) := by
  intro content? size size'
  refine ⟨fun b hb => ⟨grows_insert (fun _ _ => rfl) hb .., ?_⟩, ?_, fun hnone => ?_⟩
  · rintro rfl
    exact grows_insert (fun _ _ => rfl) hb ..
  · rintro n rfl
    exact ⟨rfl, rfl⟩
  · have hcontent : contentBounds? generator (before ++ e :: after) = content? := by
      rw [contentBounds?_insert, hnone, Option.merge_none_left]
    simp only [size, size', Document.size, reach?, hcontent, content?]

/-- A box to the right of a box that lies off the label: the default width gives way to a smaller
one, and the height grows. A symbol that cannot be encoded changes nothing. -/
theorem size_insert_narrowed :
    let generator : Symbol.Generator := fun _ => .error .tooLong
    let off : Element := .box ⟨⟨-50, 10⟩, 20, 30, 1⟩
    let low : Element := .box ⟨⟨5, 60⟩, 10, -7, 2⟩
    let refused : Element := .matrix ⟨⟨70, 90⟩, 4, none, "x"⟩
    let size (es : List Element) (w : Option Nat) := (⟨es, w⟩ : Document).size generator
    contentBounds? generator [off] = some ⟨-50, 10, -30, 40⟩ ∧
      low.bounds? generator = some ⟨5, 53, 15, 60⟩ ∧ refused.bounds? generator = none ∧
      ((size [low, off] none).width = (15 : Int) ∧
        ((size [low, off] none).height : Int) - (size [off] none).height = 60 - 40) ∧
      ((size [off] (some 7)).width = 7 ∧ (size [low, off] (some 7)).width = 7) ∧
      size [off, refused] none = size [off] none := by
  intro generator off low refused size
  have hoff : contentBounds? generator [off] = some ⟨-50, 10, -30, 40⟩ := by decide
  have hlow : low.bounds? generator = some ⟨5, 53, 15, 60⟩ := by decide
  have hrefused : refused.bounds? generator = none := by decide
  obtain ⟨hsides, -, -⟩ := size_insert generator [] [off] low none
  obtain ⟨-, hwidth, -⟩ := size_insert generator [] [off] low (some 7)
  obtain ⟨-, -, hnone⟩ := size_insert generator [off] [] refused none
  obtain ⟨hheight, hwidth'⟩ := hsides _ hlow
  refine ⟨hoff, hlow, hrefused, ⟨?_, ?_⟩, hwidth 7 rfl, hnone hrefused⟩
  · exact (hwidth' rfl).of_nonpos (by decide)
  · exact hheight.excess 40 (by decide) (by decide) (by decide)

end Document

end LabelRaster

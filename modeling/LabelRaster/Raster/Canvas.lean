import LabelRaster.Dot
import LabelRaster.Raster.Picture
import LabelRaster.Raster.Rect
import LabelRaster.Rows

/-!
# The canvas

A label is painted on a canvas: a picture with an offset. All painting is in
logical positions, to which the offset is added; what lies off the canvas is not
painted. `get?` is the view of a canvas: the colour at a logical position, if it
is on the canvas. Each operation has a lemma on what it does to that view.
-/

namespace LabelRaster

/-- A picture that is painted on in logical positions. -/
structure Canvas where
  width : Nat
  height : Nat
  /-- What is added to a logical position. -/
  offset : Point
  /-- The pixels row by row. -/
  pixels : Array Color
  size_eq : pixels.size = width * height

namespace Canvas

/-- A canvas without colour and offset. -/
def blank (width height : Nat) : Canvas where
  width := width
  height := height
  offset := ⟨0, 0⟩
  pixels := Array.replicate (width * height) .clear
  size_eq := by simp

/-- What has been painted. -/
def picture (c : Canvas) : Picture := ⟨c.width, c.height, c.pixels, c.size_eq⟩

/-- The canvas with one colour all over. -/
def flood (c : Canvas) (color : Color) : Canvas :=
  { c with
    pixels := Array.replicate (c.width * c.height) color
    size_eq := by simp }

/-- The canvas with its offset moved. -/
def translate (c : Canvas) (dx dy : Int) : Canvas :=
  { c with offset := ⟨Dot.add c.offset.x dx, Dot.add c.offset.y dy⟩ }

/-- The logical positions that are on the canvas. -/
def visible (c : Canvas) : Rect :=
  ⟨-c.offset.x, -c.offset.y, c.width - c.offset.x, c.height - c.offset.y⟩

/-- The place of a logical position among the pixels. -/
def index? (c : Canvas) (x y : Int) : Option Nat :=
  if c.visible.Contains x y then
    some ((y + c.offset.y).toNat * c.width + (x + c.offset.x).toNat)
  else none

/-- The colour at a logical position. -/
def get? (c : Canvas) (x y : Int) : Option Color := (c.index? x y).bind (c.pixels[·]?)

/-- The canvas with one pixel changed. -/
def update (c : Canvas) (x y : Int) (f : Color → Color) : Canvas :=
  match c.index? x y with
  | some i =>
    { c with
      pixels := c.pixels.modify i f
      size_eq := by simp [c.size_eq] }
  | none => c

/-- The canvas with one pixel painted. -/
def set (c : Canvas) (x y : Int) (color : Color) : Canvas := c.update x y fun _ => color

/-- The nearest share between nothing and all. -/
def share (coverage : Float32) : Float32 :=
  if coverage < 0.0 then 0.0 else if 1.0 < coverage then 1.0 else coverage

/-- The canvas with ink laid over one pixel. -/
def blend (c : Canvas) (x y : Int) (ink : Color) (coverage : Float32) : Canvas :=
  if share coverage ≤ 0.0 then c else c.update x y (Color.blend ink (share coverage))

/-- Paints `n` pixels of a row. -/
def fillRow (color : Color) (x y : Int) : Nat → Canvas → Canvas
  | 0, c => c
  | n + 1, c => fillRow color (x + 1) y n (c.set x y color)

/-- Paints `columns` pixels of each of `n` rows. -/
def fillRows (color : Color) (x y : Int) (columns : Nat) : Nat → Canvas → Canvas
  | 0, c => c
  | n + 1, c => fillRows color x (y + 1) columns n (fillRow color x y columns c)

/-- Paints the points of a rectangle. -/
def fill (c : Canvas) (r : Rect) (color : Color) : Canvas :=
  let s := r.inter c.visible
  fillRows color s.left s.top s.width.toNat s.height.toNat c

/-! ## The view -/

/-- The visible rectangle is what is on the canvas. -/
theorem index?_isSome_iff {c : Canvas} {x y : Int} :
    (c.index? x y).isSome ↔ c.visible.Contains x y := by
  simp [index?]

theorem index?_lt {c : Canvas} {x y : Int} {i : Nat} (h : c.index? x y = some i) :
    i < c.pixels.size := by
  simp only [index?, Option.ite_none_right_eq_some, Option.some.injEq] at h
  obtain ⟨hv, rfl⟩ := h
  simp only [visible, Rect.Contains] at hv
  have hx : (x + c.offset.x).toNat < c.width := by omega
  rw [c.size_eq, Rows.number_lt_iff hx]
  omega

/-- No two positions have one pixel. -/
theorem index?_inj {c : Canvas} {x y u v : Int} {i : Nat} (h : c.index? x y = some i)
    (h' : c.index? u v = some i) : x = u ∧ y = v := by
  simp only [index?, Option.ite_none_right_eq_some, Option.some.injEq] at h h'
  obtain ⟨hv, hi⟩ := h
  obtain ⟨hv', hi'⟩ := h'
  simp only [visible, Rect.Contains] at hv hv'
  have hx : (x + c.offset.x).toNat < c.width := by omega
  have hu : (u + c.offset.x).toNat < c.width := by omega
  obtain ⟨hcol, hrow⟩ := (Rows.number_inj hx hu).1 (hi.trans hi'.symm)
  omega

@[simp] theorem index?_update (c : Canvas) (x y : Int) (f : Color → Color) (u v : Int) :
    (c.update x y f).index? u v = c.index? u v := by
  unfold update; split <;> rfl

/-- One pixel is changed, and it stays missing if it is off the canvas. -/
theorem get?_update (c : Canvas) (x y : Int) (f : Color → Color) (u v : Int) :
    (c.update x y f).get? u v = if u = x ∧ v = y then (c.get? u v).map f else c.get? u v := by
  simp only [get?, index?_update]
  cases hj : c.index? u v with
  | none => simp
  | some j =>
    simp only [Option.bind_some, update]
    split
    · rename_i i hi
      simp only [Array.getElem?_modify]
      by_cases h : i = j
      · subst h
        obtain ⟨rfl, rfl⟩ := index?_inj hj hi
        simp
      · rw [if_neg h, if_neg]
        rintro ⟨rfl, rfl⟩
        rw [hi] at hj
        exact h (Option.some.inj hj)
    · rename_i hi
      rw [if_neg]
      rintro ⟨rfl, rfl⟩
      rw [hi] at hj
      cases hj

theorem get?_eq_none_iff {c : Canvas} {x y : Int} :
    c.get? x y = none ↔ ¬ c.visible.Contains x y := by
  rw [← index?_isSome_iff, get?]
  cases h : c.index? x y with
  | none => simp
  | some i => simp [index?_lt h]

theorem get?_isSome_iff {c : Canvas} {x y : Int} :
    (c.get? x y).isSome ↔ c.visible.Contains x y := by
  rw [Option.isSome_iff_ne_none, ne_eq, get?_eq_none_iff, Decidable.not_not]

theorem get?_set (c : Canvas) (x y : Int) (color : Color) (u v : Int) :
    (c.set x y color).get? u v =
      if u = x ∧ v = y then (c.get? u v).map fun _ => color else c.get? u v :=
  get?_update c x y _ u v

theorem get?_fillRow (color : Color) (x y : Int) (n : Nat) (c : Canvas) (u v : Int) :
    (fillRow color x y n c).get? u v =
      if v = y ∧ x ≤ u ∧ u < x + n then (c.get? u v).map fun _ => color else c.get? u v := by
  induction n generalizing x c with
  | zero => rw [fillRow, if_neg (by omega)]
  | succ n ih =>
    rw [fillRow, ih, get?_set]
    by_cases h : u = x ∧ v = y
    · rw [if_pos h, if_neg (by omega), if_pos (by omega)]
    · rw [if_neg h]
      by_cases h' : v = y ∧ x + 1 ≤ u ∧ u < x + 1 + n
      · rw [if_pos h', if_pos (by omega)]
      · rw [if_neg h', if_neg (by omega)]

theorem get?_fillRows (color : Color) (x y : Int) (columns n : Nat) (c : Canvas) (u v : Int) :
    (fillRows color x y columns n c).get? u v =
      if x ≤ u ∧ u < x + columns ∧ y ≤ v ∧ v < y + n then (c.get? u v).map fun _ => color
      else c.get? u v := by
  induction n generalizing y c with
  | zero => rw [fillRows, if_neg (by omega)]
  | succ n ih =>
    rw [fillRows, ih, get?_fillRow]
    by_cases h : v = y ∧ x ≤ u ∧ u < x + columns
    · rw [if_pos h, if_neg (by omega), if_pos (by omega)]
    · rw [if_neg h]
      by_cases h' : x ≤ u ∧ u < x + columns ∧ y + 1 ≤ v ∧ v < y + 1 + n
      · rw [if_pos h', if_pos (by omega)]
      · rw [if_neg h', if_neg (by omega)]

/-- The points of a rectangle take one colour, as far as they are on the canvas. -/
theorem get?_fill (c : Canvas) (r : Rect) (color : Color) (x y : Int) :
    (c.fill r color).get? x y =
      if r.Contains x y then (c.get? x y).map fun _ => color else c.get? x y := by
  rw [fill, get?_fillRows]
  by_cases hv : c.visible.Contains x y
  · have hi := Rect.contains_inter (r := r) (s := c.visible) (x := x) (y := y)
    by_cases hr : r.Contains x y
    · rw [if_pos hr, if_pos]
      simp only [Rect.Contains, Rect.width, Rect.height] at hi hr hv ⊢
      omega
    · rw [if_neg hr, if_neg]
      simp only [Rect.Contains, Rect.width, Rect.height] at hi hr hv ⊢
      omega
  · rw [get?_eq_none_iff.2 hv]; simp

end Canvas

end LabelRaster

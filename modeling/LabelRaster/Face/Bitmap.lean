import LabelRaster.Face.Ink
import LabelRaster.Glyph.Cache
import LabelRaster.Text.Blank

/-!
# The built-in face

Each character fills a cell as tall as the line and half as wide. A glyph is
stretched over its cell, each dot showing the glyph's pixel that lies there. A
character without a glyph is drawn as a frame, one dot inside its cell; a blank
leaves its cell empty. Only the cells that a window touches are drawn.

* `exists_drawCells?`: drawing never looks for a character, a pixel or a dot in vain;
* `exists_rasterize?_eq_lineInk`, `rasterize?_eq_none`: it comes to an end just if a buffer
  takes the window, and what was read before does not show.
-/

namespace LabelRaster.BitmapFace

/-- The height of a line that is asked to be `height` dots tall. -/
def lineHeight (height : Nat) : Nat := max height 1

/-- The width of a cell in a line. -/
def cellWidth (lineHeight : Nat) : Nat := max (lineHeight / 2) 1

/-- The width of a line. -/
def lineWidth (text : String) (lineHeight : Nat) : Nat := text.length * cellWidth lineHeight

/-- Whether a dot of a cell belongs to the frame that stands for a missing glyph. -/
def onFrame (width height x y : Nat) : Bool :=
  width < 3 || height < 3 ||
    (1 ≤ x && x ≤ width - 2 && (y == 1 || y == height - 2)) ||
    (1 ≤ y && y ≤ height - 2 && (x == 1 || x == width - 2))

/-- What a cell shows. -/
inductive Cell where
  /-- Nothing. -/
  | blank
  /-- A glyph. -/
  | glyph (bits : Nat)
  /-- The frame that stands for a missing glyph. -/
  | missing
deriving DecidableEq, Repr

/-- What the cell of a character shows. -/
def Cell.ofChar (source : Glyph.Source) (c : Char) : Cell :=
  if Text.isBlank c then blank
  else match source.glyph? c with
    | some bits => glyph bits
    | none => missing

/-- Whether a dot of a cell is inked. -/
def Cell.isInked (source : Glyph.Source) (width height x y : Nat) : Cell → Bool
  | blank => false
  | glyph bits => source.isOn bits (x * source.width / width) (y * source.height / height)
  | missing => onFrame width height x y

/-- Whether a dot of a line is inked. -/
def isInked (text : String) (height u v : Nat) : Bool :=
  let source := Glyph.Source.forHeight height
  let width := cellWidth height
  match text.toList[u / width]? with
  | some c => (Cell.ofChar source c).isInked source width height (u % width) v
  | none => false

/-- The coverage of a dot that is inked or not. -/
def ofInked (b : Bool) : Float32 := if b then 1.0 else 0.0

/-! ## Drawing -/

/-- Whether a dot of the cell of a character that is not blank is inked, by the pixels of its
glyph if it has one; none if there is no pixel for the dot. -/
def dot? (source : Glyph.Source) (width height : Nat) (pixels : Option (Array Bool))
    (x y : Nat) : Option Bool :=
  match pixels with
  | some pixels =>
    pixels[y * source.height / height * source.width + x * source.width / width]?
  | none => some (onFrame width height x y)

/-- What a window shows of cell number `i` of a line. -/
def cellPart (w : Window) (width i : Nat) : Window where
  left := max w.left (i * width)
  top := w.top
  right := min w.right (i * width + width)
  bottom := w.bottom

/-- Draws what a window shows of cell number `i` of a line. -/
def drawCell? (source : Glyph.Source) (width height : Nat) (chars : Array Char)
    (state : Ink × Glyph.Cache) (i : Nat) : Option (Ink × Glyph.Cache) := do
  let (ink, cache) := state
  let c ← chars[i]?
  if Text.isBlank c then
    return (ink, cache)
  let (pixels, cache) := cache.read source c
  let ink ← ink.fill? (fun u v => dot? source width height pixels (u - i * width) v)
    (cellPart ink.window width i)
  return (ink, cache)

/-- Draws those cells of a line that the window of some ink touches. -/
def drawCells? (text : String) (height : Nat) (state : Ink × Glyph.Cache) :
    Option (Ink × Glyph.Cache) :=
  let w := state.1.window
  if w.width = 0 ∨ w.height = 0 then
    some state
  else
    let source := Glyph.Source.forHeight height
    let width := cellWidth height
    let chars := text.toList.toArray
    let first := w.left / width
    let last := (w.right - 1) / width
    (List.range' first (last + 1 - first)).foldlM (drawCell? source width height chars) state

/-- The ink of a window of a line, and what has been read once it is drawn; none if no buffer takes
what the line has in the window. -/
def rasterize? (cache : Glyph.Cache) (text : String) (height : Nat) (window : Window) :
    Option (Ink × Glyph.Cache) := do
  let height := lineHeight height
  let ink ← Ink.blank? (window.within (lineWidth text height) height)
  drawCells? text height (ink, cache)

theorem cellWidth_pos (height : Nat) : 0 < cellWidth height := by
  rw [cellWidth]
  omega

/-- Each dot of a cell has its pixel. -/
theorem dot?_pixels {source : Glyph.Source} {c : Char} {width height x y : Nat}
    (hc : Text.isBlank c = false) (hx : x < width) (hy : y < height) :
    dot? source width height (source.pixels? c) x y =
      some ((Cell.ofChar source c).isInked source width height x y) := by
  have hcolumn : x * source.width / width < source.width :=
    Nat.div_lt_of_lt_mul (Nat.mul_lt_mul_of_pos_right hx source.width_pos)
  have hrow : y * source.height / height < source.height :=
    Nat.div_lt_of_lt_mul (Nat.mul_lt_mul_of_pos_right hy source.height_pos)
  rw [Cell.ofChar, hc, if_neg Bool.false_ne_true]
  cases hglyph : source.glyph? c with
  | none =>
    rw [Glyph.Source.pixels?, hglyph]
    rfl
  | some glyph =>
    obtain ⟨pixels, hpixels⟩ : ∃ pixels, source.pixels? c = some pixels := by
      rw [Glyph.Source.pixels?, hglyph]
      exact ⟨_, rfl⟩
    rw [hpixels, dot?, Glyph.Source.getElem?_pixels hglyph hpixels hcolumn hrow]
    rfl

/-- What a line shows in cell number `i`. -/
theorem isInked_of_cell {text : String} {i : Nat} {c : Char} (hc : text.toList[i]? = some c)
    (height u v : Nat)
    (hu : i * cellWidth height ≤ u ∧ u < i * cellWidth height + cellWidth height) :
    isInked text height u v = (Cell.ofChar (.forHeight height) c).isInked (.forHeight height)
      (cellWidth height) height (u - i * cellWidth height) v := by
  obtain ⟨x, rfl⟩ := Nat.exists_eq_add_of_le hu.1
  have hx : x < cellWidth height := by omega
  simp only [isInked, Rows.number_div hx, Rows.number_mod hx, hc, Nat.add_sub_cancel_left]

/-- The cells from that of the first column to that of the last are cells of the line, and hold all
columns between. -/
theorem cells_of_columns {left right width count : Nat} (hwidth : 0 < width) (h : left < right)
    (hright : right ≤ count * width) :
    left / width * width ≤ left ∧ left / width ≤ (right - 1) / width ∧
      (right - 1) / width < count ∧ right ≤ ((right - 1) / width + 1) * width := by
  have hlast : right - 1 < (right - 1) / width * width + width := Nat.lt_div_mul_add hwidth
  refine ⟨Nat.div_mul_le_self .., Nat.div_le_div_right (by omega), ?_, ?_⟩
  · rw [Nat.div_lt_iff_lt_mul hwidth]
    omega
  · rw [Nat.succ_mul]
    omega

section Drawing

variable {text : String} {height : Nat} {w : Window}

/-- What a window shows once the cells before cell number `i` are drawn. -/
def DrawnBefore (text : String) (height : Nat) (w : Window) (i : Nat)
    (state : Ink × Glyph.Cache) : Prop :=
  state.2.IsFaithful ∧
    state.1.Shows w fun u v => u < i * cellWidth height ∧ isInked text height u v = true

/-- Drawing a cell succeeds, and shows what the line has in it. -/
theorem DrawnBefore.exists_drawCell? {i : Nat} {state : Ink × Glyph.Cache}
    (h : DrawnBefore text height w i state) (hi : i < text.length) (hbottom : w.bottom ≤ height) :
    ∃ state', drawCell? (.forHeight height) (cellWidth height) height text.toList.toArray state i =
        some state' ∧ DrawnBefore text height w (i + 1) state' := by
  obtain ⟨ink, cache⟩ := state
  obtain ⟨hcache : cache.IsFaithful, hink : ink.Shows w _⟩ := h
  obtain ⟨c, hc⟩ : ∃ c, text.toList[i]? = some c := ⟨_, List.getElem?_eq_getElem hi⟩
  have hcell := isInked_of_cell hc height
  have hnext : (i + 1) * cellWidth height = i * cellWidth height + cellWidth height :=
    Nat.succ_mul ..
  rw [drawCell?, List.getElem?_toArray, hc, Option.bind_eq_bind, Option.bind_some]
  cases hblank : Text.isBlank c with
  | true =>
    have hnone : ∀ u v, i * cellWidth height ≤ u ∧ u < i * cellWidth height + cellWidth height →
        isInked text height u v = false := by
      intro u v hu
      rw [hcell u v hu, Cell.ofChar, hblank, if_pos rfl]
      rfl
    exact ⟨(ink, cache), rfl, hcache, hink.congr fun u v _ _ => by grind⟩
  | false =>
    obtain rfl := hink.window_eq
    have hdot : ∀ u v, max ink.window.left (i * cellWidth height) ≤ u ∧
          u < min ink.window.right (i * cellWidth height + cellWidth height) →
        ink.window.top ≤ v ∧ v < ink.window.bottom →
        dot? (.forHeight height) (cellWidth height) height (cache.read (.forHeight height) c).1
          (u - i * cellWidth height) v = some (isInked text height u v) := by
      intro u v hu hv
      rw [Glyph.Cache.fst_read hcache, dot?_pixels hblank (by omega) (by omega),
        hcell u v (by omega)]
    obtain ⟨ink', hfill, hshows⟩ := hink.fill? (cellPart ink.window (cellWidth height) i)
      (Nat.le_max_left ..) (Nat.min_le_left ..) (Nat.le_refl _) (Nat.le_refl _) hdot
    refine ⟨(ink', (cache.read (.forHeight height) c).2), ?_, hcache.read _ c,
      hshows.congr fun u v _ _ => by grind [cellPart]⟩
    rw [if_neg Bool.false_ne_true]
    simp only [hfill]
    rfl

/-- Drawing the cells of a window within a line succeeds, and shows the line. -/
theorem exists_drawCells? {cache : Glyph.Cache} (hcache : cache.IsFaithful)
    (hright : w.right ≤ lineWidth text height) (hbottom : w.bottom ≤ height) :
    ∃ ink cache', drawCells? text height (Ink.clear w, cache) = some (ink, cache') ∧
      cache'.IsFaithful ∧ ink.Shows w fun u v => isInked text height u v = true := by
  have hwindow : (Ink.clear w).window = w := rfl
  simp only [drawCells?, hwindow]
  by_cases hnone : w.width = 0 ∨ w.height = 0
  · rw [if_pos hnone]
    refine ⟨Ink.clear w, cache, rfl, hcache, (Ink.shows_clear w).congr fun u v hu hv => ?_⟩
    simp only [Window.width, Window.height] at hnone
    omega
  · rw [if_neg hnone]
    simp only [Window.width, Window.height] at hnone
    obtain ⟨hfirst, hcells, hlast, hend⟩ :=
      cells_of_columns (cellWidth_pos height) (by omega : w.left < w.right) hright
    have hinit : DrawnBefore text height w (w.left / cellWidth height) (Ink.clear w, cache) :=
      ⟨hcache, (Ink.shows_clear w).congr fun u v _ _ => by grind⟩
    obtain ⟨⟨ink, cache'⟩, hloop, hdrawn⟩ := Lists.exists_foldlM_range' _
      ((w.right - 1) / cellWidth height + 1 - w.left / cellWidth height)
      (fun i state _ hi h => h.exists_drawCell? (by omega) hbottom) hinit
    rw [Nat.add_sub_cancel' (by omega)] at hdrawn
    exact ⟨ink, cache', hloop, hdrawn.1, hdrawn.2.congr fun u v _ _ => by grind⟩

end Drawing

/-! ## What is drawn -/

/-- The part of a window that lies in the line of a text. -/
def lineWindow (text : String) (height : Nat) (window : Window) : Window :=
  window.within (lineWidth text (lineHeight height)) (lineHeight height)

/-- The cells that a window touches ink the dots of its line. -/
theorem exists_drawCells?_lineWindow {cache : Glyph.Cache} (hcache : cache.IsFaithful)
    (text : String) (height : Nat) (window : Window) :
    ∃ ink cache', drawCells? text (lineHeight height)
        (Ink.clear (lineWindow text height window), cache) = some (ink, cache') ∧
      cache'.IsFaithful ∧ ink.Shows (lineWindow text height window)
        fun u v => isInked text (lineHeight height) u v = true :=
  exists_drawCells? hcache (Nat.min_le_right ..) (Nat.min_le_right ..)

theorem isSome_drawCells?_empty (text : String) (height : Nat) (window : Window) :
    (drawCells? text (lineHeight height)
      (Ink.clear (lineWindow text height window), .empty)).isSome := by
  obtain ⟨ink, cache, hdraw, -⟩ :=
    exists_drawCells?_lineWindow Glyph.Cache.isFaithful_empty text height window
  rw [hdraw]
  rfl

/-- The ink of a window of a line, whether or not a buffer takes it. -/
def lineInk (text : String) (height : Nat) (window : Window) : Ink :=
  ((drawCells? text (lineHeight height) (Ink.clear (lineWindow text height window), .empty)).get
    (isSome_drawCells?_empty text height window)).1

theorem shows_lineInk (text : String) (height : Nat) (window : Window) :
    (lineInk text height window).Shows (lineWindow text height window)
      fun u v => isInked text (lineHeight height) u v = true := by
  obtain ⟨ink, cache, hdraw, -, hshows⟩ :=
    exists_drawCells?_lineWindow Glyph.Cache.isFaithful_empty text height window
  simp only [lineInk, hdraw, Option.get_some]
  exact hshows

theorem lineInk_window (text : String) (height : Nat) (window : Window) :
    (lineInk text height window).window =
      window.within (lineWidth text (lineHeight height)) (lineHeight height) :=
  (shows_lineInk text height window).window_eq

theorem coverage_lineInk (text : String) (height : Nat) (window : Window) (x y : Nat) :
    let w := window.within (lineWidth text (lineHeight height)) (lineHeight height)
    (lineInk text height window).coverage x y =
      if x < w.width ∧ y < w.height then
        ofInked (isInked text (lineHeight height) (w.left + x) (w.top + y))
      else 0.0 :=
  (shows_lineInk text height window).coverage_eq x y

/-- What fits a buffer is drawn, and what was read before does not show. -/
theorem exists_rasterize?_eq_lineInk {cache : Glyph.Cache} (hcache : cache.IsFaithful)
    {text : String} {height : Nat} {window : Window}
    (hfits : (lineWindow text height window).Fits) :
    ∃ cache', rasterize? cache text height window = some (lineInk text height window, cache') ∧
      cache'.IsFaithful := by
  obtain ⟨ink, cache', hdraw, hfaithful, hshows⟩ :=
    exists_drawCells?_lineWindow hcache text height window
  obtain rfl := hshows.unique (shows_lineInk text height window)
  refine ⟨cache', ?_, hfaithful⟩
  rw [lineWindow] at hfits hdraw
  simp only [rasterize?, Ink.blank?_eq, if_pos hfits, Option.bind_eq_bind, Option.bind_some]
  exact hdraw

theorem rasterize?_eq_none {text : String} {height : Nat} {window : Window}
    (hfits : ¬ (lineWindow text height window).Fits) (cache : Glyph.Cache) :
    rasterize? cache text height window = none := by
  rw [lineWindow] at hfits
  simp only [rasterize?, Ink.blank?_eq, if_neg hfits, Option.bind_eq_bind, Option.bind_none]

end LabelRaster.BitmapFace

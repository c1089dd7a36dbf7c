import LabelRaster.Face.Basic

/-!
# Windows of lines

Lines in the built-in face are drawn one after the other, each through a window, and the
glyphs that one of them reads are kept for the next. What a window shows depends on its
line alone: the dots of the line that are inked (`Inks`), as if it were cut out of the
whole line (`coverage_eq_wholeInk`). A window is drawn just if a buffer takes it.
-/

namespace LabelRaster.BitmapFace

/-- The columns and rows of the glyphs that a line of the given height is painted from. -/
def sourceSize (height : Nat) : Nat × Nat :=
  if height ≤ 12 then (6, 12) else if height ≤ 16 then (8, 16) else (12, 24)

/-- The outline of a box that lies one dot inside a cell; all of a cell that is too small. -/
def OnOutline (width height x y : Nat) : Prop :=
  width < 3 ∨ height < 3 ∨
    ((1 ≤ x ∧ x ≤ width - 2) ∧ 1 ≤ y ∧ y ≤ height - 2) ∧
      ¬ ((2 ≤ x ∧ x ≤ width - 3) ∧ 2 ≤ y ∧ y ≤ height - 3)

/-- Whether a line that is `height` dots tall has ink at a dot: the character there is not blank,
and its glyph is on there or, if it has none, the outline of a box runs there. -/
def Inks (text : String) (height u v : Nat) : Prop :=
  let width := max (height / 2) 1
  let source := Glyph.Source.forHeight height
  ∃ c, text.toList[u / width]? = some c ∧ Text.isBlank c = false ∧
    ((∃ glyph, source.glyph? c = some glyph ∧ source.isOn glyph
        (u % width * (sourceSize height).1 / width) (v * (sourceSize height).2 / height) = true) ∨
      source.glyph? c = none ∧ OnOutline width height (u % width) v)

theorem size_forHeight (height : Nat) :
    ((Glyph.Source.forHeight height).width, (Glyph.Source.forHeight height).height) =
      sourceSize height := by
  rw [Glyph.Source.forHeight, sourceSize]
  split
  · rfl
  · split <;> rfl

theorem onFrame_iff {width height x y : Nat} : onFrame width height x y = true ↔
    OnOutline width height x y := by
  simp only [onFrame, OnOutline, Bool.or_eq_true, Bool.and_eq_true, decide_eq_true_eq, beq_iff_eq]
  omega

/-- The box starts at `(1, 1)`, and is empty. -/
example : onFrame 12 24 1 1 = true ∧ onFrame 12 24 10 1 = true ∧ onFrame 12 24 0 0 = false ∧
    onFrame 12 24 6 12 = false := by decide

theorem isInked_iff {text : String} {height u v : Nat} :
    isInked text height u v = true ↔ Inks text height u v := by
  rw [isInked, Inks, ← size_forHeight]
  simp only [cellWidth]
  cases text.toList[u / max (height / 2) 1]? with
  | none => simp
  | some c =>
    cases hblank : Text.isBlank c with
    | true => simp [Cell.ofChar, hblank, Cell.isInked]
    | false =>
      cases hglyph : (Glyph.Source.forHeight height).glyph? c with
      | none => simp [Cell.ofChar, hblank, hglyph, Cell.isInked, onFrame_iff]
      | some glyph => simp [Cell.ofChar, hblank, hglyph, Cell.isInked]

instance (text : String) (height u v : Nat) : Decidable (Inks text height u v) :=
  decidable_of_iff _ isInked_iff

/-- Some ink is what a window shows of a line: as large as the part of the window that lies in the
line, and inked where the line is. -/
structure IsWindowOf (ink : Ink) (text : String) (height : Nat) (window : Window) : Prop where
  left_eq : ink.window.left = window.left
  top_eq : ink.window.top = window.top
  width_eq : ink.window.width =
    min window.right (text.length * max (height / 2) 1) - window.left
  height_eq : ink.window.height = min window.bottom height - window.top
  coverage_eq : ∀ x < ink.window.width, ∀ y < ink.window.height, ink.coverage x y =
    if Inks text height (window.left + x) (window.top + y) then 1.0 else 0.0
  coverage_beyond : ∀ x y, ¬ (x < ink.window.width ∧ y < ink.window.height) →
    ink.coverage x y = 0.0

theorem isWindowOf_lineInk (text : String) (height : Nat) (window : Window) :
    IsWindowOf (lineInk text height window) text (lineHeight height) window := by
  have hwindow := lineInk_window text height window
  refine ⟨by rw [hwindow]; rfl, by rw [hwindow]; rfl, by rw [hwindow]; rfl, by rw [hwindow]; rfl,
    fun x hx y hy => ?_, fun x y hbeyond => ?_⟩
  · rw [hwindow] at hx hy
    rw [coverage_lineInk, if_pos ⟨hx, hy⟩]
    exact ite_congr (propext isInked_iff) (fun _ => rfl) fun _ => rfl
  · rw [hwindow] at hbeyond
    rw [coverage_lineInk, if_neg hbeyond]

/-- A window is cut out of the whole line. -/
theorem coverage_eq_wholeInk (text : String) (height : Nat) (window : Window) (x y : Nat) :
    let ink := Face.bitmap.lineInk text height window
    ink.coverage x y = if x < ink.window.width ∧ y < ink.window.height then
      (Face.bitmap.wholeInk text height).coverage (window.left + x) (window.top + y) else 0.0 := by
  have hwindow : (Face.bitmap.lineInk text height window).window =
      window.within (lineWidth text (lineHeight height)) (lineHeight height) := lineInk_window ..
  intro ink
  rw [hwindow]
  refine (coverage_lineInk ..).trans (ite_congr rfl (fun hin => ?_) fun _ => rfl)
  show _ = (lineInk text height
    (.whole (lineWidth text (lineHeight height)) (lineHeight height))).coverage _ _
  rw [coverage_lineInk, if_pos]
  · simp only [Window.whole, Window.within, Nat.zero_add]
  · simp only [Window.within, Window.width, Window.height] at hin
    simp only [Window.whole, Window.within, Window.width, Window.height]
    omega

/-! ## Windows one after the other -/

/-- A line that is asked for, and the window of it that is to be drawn. -/
structure Request where
  text : String
  height : Nat
  window : Window

/-- What has been read once a window was asked for. A window that no buffer takes is given up before
a glyph is read. -/
def Request.read (r : Request) (cache : Glyph.Cache) : Glyph.Cache :=
  ((rasterize? cache r.text r.height r.window).map Prod.snd).getD cache

/-- What has been read once some windows were asked for, one after the other. -/
def readFor (cache : Glyph.Cache) (requests : List Request) : Glyph.Cache :=
  requests.foldl (fun cache r => r.read cache) cache

/-- The bytes that the coverage of a window takes: four for each dot of the part of it that lies in
a line that is `height` dots tall. -/
def bufferSize (text : String) (height : Nat) (window : Window) : Nat :=
  4 * ((min window.right (text.length * max (height / 2) 1) - window.left) *
    (min window.bottom height - window.top))

theorem fits_lineWindow_iff {text : String} {height : Nat} {window : Window} :
    (lineWindow text height window).Fits ↔
      bufferSize text (max height 1) window ≤ 9223372036854775807 :=
  Iff.rfl

theorem Request.isFaithful_read {cache : Glyph.Cache} (hcache : cache.IsFaithful) (r : Request) :
    (r.read cache).IsFaithful := by
  by_cases hfits : (lineWindow r.text r.height r.window).Fits
  · obtain ⟨cache', hdraw, hcache'⟩ := exists_rasterize?_eq_lineInk hcache hfits
    rw [read, hdraw]
    exact hcache'
  · rw [read, rasterize?_eq_none hfits]
    exact hcache

/-- Whatever is asked for, the glyphs are kept as they look. -/
theorem isFaithful_readFor {cache : Glyph.Cache} (hcache : cache.IsFaithful)
    (requests : List Request) : (readFor cache requests).IsFaithful := by
  induction requests generalizing cache with
  | nil => exact hcache
  | cons r rs ih => exact ih (r.isFaithful_read hcache)

/-- With a height of 32 bits, 64 bits count the columns of a line of as many characters. -/
theorem lineWidth_le {text : String} {height : Nat} (htext : text.length ≤ 4294967296)
    (hheight : height ≤ 4294967295) :
    lineWidth text (lineHeight height) ≤ 18446744073709551615 := by
  have hcell : cellWidth (lineHeight height) ≤ 2147483648 := by
    rw [cellWidth, lineHeight]
    omega
  calc lineWidth text (lineHeight height)
      ≤ 4294967296 * 2147483648 := Nat.mul_le_mul htext hcell
    _ ≤ 18446744073709551615 := by decide

/-- Whatever was asked for before, a window is drawn if 63 bits count the bytes of its coverage, and
shows what its line has in it; if they count those of the whole line as well, the window is cut out
of that. A larger window is not drawn. -/
theorem rasterize?_isWindowOf (earlier : List Request) (text : String) (height : Nat)
    (window : Window) :
    let cache := readFor .empty earlier
    let size := Face.bitmap.lineSize text height
    let line : Window := .whole size.1 size.2
    (bufferSize text (max height 1) window ≤ 9223372036854775807 →
      ∃ ink cache', rasterize? cache text height window = some (ink, cache') ∧
        IsWindowOf ink text (max height 1) window ∧
        (bufferSize text (max height 1) line ≤ 9223372036854775807 →
          ∃ whole cache'', rasterize? cache' text height line = some (whole, cache'') ∧
            ∀ x y, ink.coverage x y = if x < ink.window.width ∧ y < ink.window.height then
              whole.coverage (window.left + x) (window.top + y) else 0.0)) ∧
    (9223372036854775807 < bufferSize text (max height 1) window →
      rasterize? cache text height window = none) ∧
    (text.length ≤ 4294967296 → height ≤ 4294967295 → size.1 ≤ 18446744073709551615) := by
  intro cache size line
  have hcache : cache.IsFaithful := isFaithful_readFor Glyph.Cache.isFaithful_empty earlier
  refine ⟨fun hfits => ?_, fun hlarge => ?_, lineWidth_le⟩
  · obtain ⟨cache', hdraw, hcache'⟩ :=
      exists_rasterize?_eq_lineInk hcache (fits_lineWindow_iff.2 hfits)
    refine ⟨_, cache', hdraw, isWindowOf_lineInk text height window, fun hline => ?_⟩
    obtain ⟨cache'', hwhole, -⟩ :=
      exists_rasterize?_eq_lineInk hcache' (fits_lineWindow_iff.2 hline)
    exact ⟨_, cache'', hwhole, coverage_eq_wholeInk text height window⟩
  · exact rasterize?_eq_none (fun hfits => Nat.not_le.2 hlarge (fits_lineWindow_iff.1 hfits)) cache

/-- A part of the tallest line, which is drawn after one of its characters was read for another line
and the whole of it could not be drawn. In a line of usual height it is cut out of the whole. -/
theorem rasterize?_isWindowOf_tallest :
    let line : Window := .whole 2147483647 4294967295
    let part : Window := ⟨5, 7, 105, 57⟩
    let cache := readFor .empty [⟨"BA", 24, part⟩, ⟨"A", 4294967295, line⟩]
    (9223372036854775807 < bufferSize "A" 4294967295 line ∧
        rasterize? cache "A" 4294967295 line = none) ∧
      (bufferSize "A" 4294967295 part ≤ 9223372036854775807 ∧
        ∃ ink cache', rasterize? cache "A" 4294967295 part = some (ink, cache') ∧
          ink.window.width = 100 ∧ ink.window.height = 50) ∧
      (bufferSize "BA" 24 (.whole 24 24) ≤ 9223372036854775807 ∧
        ∃ ink cache' whole cache'', rasterize? cache "BA" 24 part = some (ink, cache') ∧
          rasterize? cache' "BA" 24 (.whole 24 24) = some (whole, cache'') ∧
          ink.coverage 3 4 = whole.coverage 8 11) ∧
      (Face.bitmap.lineSize "A" 4294967295).1 ≤ 18446744073709551615 := by
  intro line part cache
  let earlier : List Request := [⟨"BA", 24, part⟩, ⟨"A", 4294967295, line⟩]
  have hlarge : 9223372036854775807 < bufferSize "A" 4294967295 line := by decide
  have hfits : bufferSize "A" 4294967295 part ≤ 9223372036854775807 := by decide
  have hcut : bufferSize "BA" 24 part ≤ 9223372036854775807 := by decide
  have hwhole : bufferSize "BA" 24 (.whole 24 24) ≤ 9223372036854775807 := by decide
  obtain ⟨-, hnone, hcounted⟩ := rasterize?_isWindowOf earlier "A" 4294967295 line
  refine ⟨⟨hlarge, hnone hlarge⟩, ⟨hfits, ?_⟩, ⟨hwhole, ?_⟩, hcounted (by decide) (by decide)⟩
  · obtain ⟨ink, cache', hdraw, hwindow, -⟩ :=
      (rasterize?_isWindowOf earlier "A" 4294967295 part).1 hfits
    refine ⟨ink, cache', hdraw, ?_, ?_⟩
    · rw [hwindow.width_eq]
      decide
    · rw [hwindow.height_eq]
      decide
  · obtain ⟨ink, cache', hdraw, hwindow, hline⟩ :=
      (rasterize?_isWindowOf earlier "BA" 24 part).1 hcut
    obtain ⟨whole, cache'', hdrawn, hcoverage⟩ := hline hwhole
    refine ⟨ink, cache', whole, cache'', hdraw, hdrawn, ?_⟩
    rw [hcoverage, if_pos]
    rw [hwindow.width_eq, hwindow.height_eq]
    decide

end LabelRaster.BitmapFace

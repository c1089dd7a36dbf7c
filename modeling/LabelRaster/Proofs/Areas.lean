import LabelRaster.Proofs.Bars
import LabelRaster.Proofs.Footprint

/-!
# The points that shapes are drawn on

Boxes, barcodes and matrix symbols are painted as rectangles that may lie over each
other, cut off where the canvas ends. What comes out is told here by one condition on
the point, without the rectangles and their order: `BoxField.Inks`, `BarField.Inks` and
`MatrixField.Lights`. The canvas is left as it was at all other points.
-/

namespace LabelRaster

/-- What an element covers in one colour has that colour where it can be seen, and all else is as it
was. -/
theorem Painter.get?_paint_of_footprint? (painter : Painter) (c : Canvas) {e : Element}
    (he : e.IsCovering) {color : Color} {u v : Int} {p : Prop} [Decidable p]
    (h : e.footprint? painter.generator u v = if p then some color else none) :
    (painter.paint c e).get? u v =
      if c.visible.Contains u v ∧ p then some color else c.get? u v := by
  rw [get?_paint_footprint painter c he, h]
  simp only [← Canvas.get?_isSome_iff]
  cases c.get? u v with
  | none => simp
  | some under => by_cases hp : p <;> simp [hp]

/-! ## Boxes -/

namespace BoxField

/-- The points that a box is drawn on. If it has two sides, they lie between an outer and an inner
edge, half a line's thickness to either side of the rectangle that it spans; if it has one side
only, they are the points of that line. -/
def Inks (b : BoxField) (u v : Int) : Prop :=
  let t := max b.thickness 1
  let h := t / 2
  let left := min b.origin.x (b.origin.x + b.width)
  let right := max b.origin.x (b.origin.x + b.width)
  let top := min b.origin.y (b.origin.y + b.height)
  let bottom := max b.origin.y (b.origin.y + b.height)
  (b.width ≠ 0 ∧ b.height ≠ 0 ∧
    (left - h ≤ u ∧ u < right - h + t ∧ top - h ≤ v ∧ v < bottom - h + t) ∧
    ¬ (left - h + t ≤ u ∧ u < right - h ∧ top - h + t ≤ v ∧ v < bottom - h)) ∨
  (b.width ≠ 0 ∧ b.height = 0 ∧
    left ≤ u ∧ u < right ∧ b.origin.y - h ≤ v ∧ v < b.origin.y - h + t) ∨
  (b.width = 0 ∧ b.height ≠ 0 ∧
    b.origin.x - h ≤ u ∧ u < b.origin.x - h + t ∧ top ≤ v ∧ v < bottom)

instance (b : BoxField) (u v : Int) : Decidable (b.Inks u v) :=
  inferInstanceAs (Decidable (_ ∨ _ ∨ _))

theorem exists_patches_contains_iff {b : BoxField} {u v : Int} :
    (∃ p ∈ b.patches, p.rect.Contains u v) ↔ b.Inks u v := by
  simp only [patches, List.mem_map, exists_exists_and_eq_and]
  by_cases hw : b.width = 0 <;> by_cases hh : b.height = 0
  · simp [Inks, hw, hh]
  · simp [Inks, hw, hh, Rect.vertical, Rect.lineThickness, Rect.Contains]
  · simp [Inks, hw, hh, Rect.horizontal, Rect.lineThickness, Rect.Contains]
  · rw [if_neg (fun h => hw h.1), if_neg hw, if_neg hh, Rect.exists_frame_contains_iff]
    simp [Inks, hw, hh, Rect.sized, Rect.ofCorners, Rect.lineThickness]

theorem top?_patches (b : BoxField) (u v : Int) :
    Patch.top? b.patches u v = if b.Inks u v then some .black else none := by
  have hblack : ∀ p ∈ b.patches, p.color = .black := by
    intro p hp
    obtain ⟨r, -, rfl⟩ := List.mem_map.1 hp
    rfl
  rw [Patch.top?_of_color hblack]
  simp only [exists_patches_contains_iff]

end BoxField

/-- A box is drawn in black on those points of its area that can be seen, and nowhere else. -/
theorem Painter.get?_paint_box (painter : Painter) (c : Canvas) (b : BoxField) :
    (painter.paint c (.box b)).frame = c.frame ∧
      ∀ u v, (painter.paint c (.box b)).get? u v =
        if c.visible.Contains u v ∧ b.Inks u v then some .black else c.get? u v :=
  ⟨painter.frame_paint c _, fun u v =>
    painter.get?_paint_of_footprint? c (e := .box b) trivial (b.top?_patches u v)⟩

/-- A box that is no wider than its lines is filled by them. -/
example :
    (⟨⟨5, 4⟩, -3, -9, 3⟩ : BoxField).Inks 4 0 ∧ ¬ (⟨⟨5, 4⟩, -4, -9, 3⟩ : BoxField).Inks 3 0 := by
  decide

/-! ## Barcodes -/

namespace BarField

/-- The points that a barcode is drawn on: as high as its bars, where the module that lies there is
dark. -/
def Inks (b : BarField) (u v : Int) : Prop :=
  (b.origin.x ≤ u ∧ u < b.rightEnd) ∧
    (b.origin.y ≤ v ∧ v < b.origin.y + min (b.height : Int) Dot.greatest) ∧
    (Symbol.Bars.modules b.content)[((u - b.origin.x) /
      Symbol.Bars.fittedModuleWidth b.content b.moduleWidth).toNat]? = some true

instance (b : BarField) (u v : Int) : Decidable (b.Inks u v) :=
  inferInstanceAs (Decidable (_ ∧ _ ∧ _))

/-- A point lies in the module whose number is its distance from the first one, in modules. -/
theorem contains_modulePatch_iff {x y step height : Int} (hstep : 0 < step) (hheight : 0 ≤ height)
    {i : Nat} {u v : Int} :
    (modulePatch x y step height i).rect.Contains u v ↔
      (x ≤ u ∧ ((u - x) / step).toNat = i) ∧ y ≤ v ∧ v < y + height := by
  have hdiv := Int.ediv_eq_iff_of_pos (x := u - x) (y := i) hstep
  have hfirst : 0 ≤ step * i := Int.mul_nonneg (Int.le_of_lt hstep) (Int.natCast_nonneg i)
  have hnonneg : 0 ≤ u - x → 0 ≤ (u - x) / step := fun h => Int.ediv_nonneg h (Int.le_of_lt hstep)
  rw [Int.mul_comm (i : Int)] at hdiv
  simp only [modulePatch, Rect.sized, Rect.ofCorners, Rect.Contains]
  generalize (u - x) / step = q at *
  generalize step * (i : Int) = s at *
  omega

theorem exists_patches_contains_iff {b : BarField} (hl : Dot.least ≤ b.origin.x)
    (hg : b.rightEnd ≤ Dot.greatest) {u v : Int} :
    (∃ p ∈ b.patches, p.rect.Contains u v) ↔ b.Inks u v := by
  have hstep : (0 : Int) < Symbol.Bars.fittedModuleWidth b.content b.moduleWidth :=
    Int.natCast_pos.2 (Symbol.Bars.fittedModuleWidth_pos ..)
  have hheight : 0 ≤ min (b.height : Int) Dot.greatest := by
    have : 0 ≤ Dot.greatest := by decide
    omega
  rw [patches_eq hl hg]
  simp only [List.mem_map, List.mem_filter, List.mem_range, exists_exists_and_eq_and,
    contains_modulePatch_iff hstep hheight, decide_eq_true_eq]
  rw [Inks, rightEnd]
  generalize Symbol.Bars.fittedModuleWidth b.content b.moduleWidth = f at *
  constructor
  · rintro ⟨i, ⟨hi, hdark⟩, ⟨hu, rfl⟩, hv⟩
    have hnumber : (u - b.origin.x) / (f : Int) < Symbol.Bars.moduleCount b.content := by omega
    have := (Int.ediv_lt_iff_lt_mul hstep).1 hnumber
    exact ⟨⟨hu, by omega⟩, hv, hdark⟩
  · rintro ⟨⟨hu, -⟩, hv, hdark⟩
    refine ⟨_, ⟨?_, hdark⟩, ⟨hu, rfl⟩, hv⟩
    rw [← Symbol.Bars.length_modules]
    exact (List.getElem?_eq_some_iff.1 hdark).1

theorem color_of_mem_patchesFrom {y step height x : Int} {ms : List Bool} :
    ∀ p ∈ patchesFrom y step height ms x, p.color = .black := by
  induction ms generalizing x with
  | nil => nofun
  | cons m ms ih =>
    cases m with
    | false => exact ih
    | true => exact List.forall_mem_cons.2 ⟨rfl, ih⟩

theorem top?_patches (b : BarField) (hl : Dot.least ≤ b.origin.x)
    (hg : b.rightEnd ≤ Dot.greatest) (u v : Int) :
    Patch.top? b.patches u v = if b.Inks u v then some .black else none := by
  have hblack : ∀ p ∈ b.patches, p.color = .black := color_of_mem_patchesFrom
  rw [Patch.top?_of_color hblack]
  simp only [exists_patches_contains_iff hl hg]

end BarField

/-- The modules of a barcode spell its characters in base two, each with a light module behind it.
A barcode that ends within the range of positions is drawn in black on its dark modules, as far as
they can be seen, and nowhere else. -/
theorem Painter.get?_paint_bars (painter : Painter) (b : BarField) :
    ((Symbol.Bars.modules b.content).length = Symbol.Bars.moduleCount b.content ∧
      Symbol.Bars.modules b.content = b.content.toList.flatMap fun ch =>
        (Nat.toDigits 2 ch.toNat).map (· == '1') ++ [false]) ∧
    (Dot.least ≤ b.origin.x → b.rightEnd ≤ Dot.greatest → ∀ c : Canvas,
      (painter.paint c (.bars b)).frame = c.frame ∧
        ∀ u v, (painter.paint c (.bars b)).get? u v =
          if c.visible.Contains u v ∧ b.Inks u v then some .black else c.get? u v) :=
  ⟨⟨Symbol.Bars.length_modules _, Symbol.Bars.modules_eq _⟩, fun hl hg c =>
    ⟨painter.frame_paint c _, fun u v =>
      painter.get?_paint_of_footprint? c (e := .bars b) trivial (b.top?_patches hl hg u v)⟩⟩

/-- The last dark module of a barcode whose first character is off the canvas, and the light module
in front of it. -/
theorem Painter.get?_paint_bars_clipped :
    let painter : Painter := ⟨fun _ => .error .tooLong, .bitmap, .white⟩
    let b : BarField := ⟨⟨5, 6⟩, 4, 3, "A!"⟩
    let c := painter.canvas ⟨30, 4, ⟨-30, -8⟩, 1.0⟩
    Dot.least ≤ b.origin.x ∧ b.rightEnd = 50 ∧ b.rightEnd ≤ Dot.greatest ∧
      Symbol.Bars.modules b.content =
        [true, false, false, false, false, false, true, false] ++
          [true, false, false, false, false, true, false] ∧
      (c.visible.Contains 46 9 ∧ b.Inks 46 9 ∧
        (painter.paint c (.bars b)).get? 46 9 = some .black) ∧
      (¬ b.Inks 43 9 ∧ (painter.paint c (.bars b)).get? 43 9 = c.get? 43 9) ∧
      (¬ b.Inks 46 10 ∧ (painter.paint c (.bars b)).get? 46 10 = c.get? 46 10) := by
  intro painter b c
  have hend : b.rightEnd = 50 := by decide +kernel
  have hvisible : c.visible.Contains 46 9 := by decide
  have hdark : b.Inks 46 9 := by decide +kernel
  have hlight : ¬ b.Inks 43 9 := by decide +kernel
  have hbelow : ¬ b.Inks 46 10 := by decide +kernel
  obtain ⟨⟨-, hmodules⟩, hpaint⟩ := painter.get?_paint_bars b
  obtain ⟨-, hpaint⟩ := hpaint (by decide) (by rw [hend]; decide) c
  refine ⟨by decide, hend, by rw [hend]; decide, hmodules.trans (by decide +kernel),
    ⟨hvisible, hdark, ?_⟩, ⟨hlight, ?_⟩, hbelow, ?_⟩
  · rw [hpaint, if_pos ⟨hvisible, hdark⟩]
  · rw [hpaint, if_neg fun h => hlight h.2]
  · rw [hpaint, if_neg fun h => hbelow h.2]

/-! ## Matrix symbols -/

namespace MatrixField

/-- The points of the square that a symbol with sides of `side` is drawn as, from the nearest whole
position to the nearest one. -/
def Covers (m : MatrixField) (side : Float32) (u v : Int) : Prop :=
  let round (a : Float32) : Int := a.round.toInt64.toInt
  let x := Float32.ofInt m.origin.x
  let y := Float32.ofInt m.origin.y
  (round x ≤ u ∧ u < round (x + side)) ∧ (round y ≤ v ∧ v < round (y + side))

instance (m : MatrixField) (side : Float32) (u v : Int) : Decidable (m.Covers side u v) :=
  inferInstanceAs (Decidable (_ ∧ _))

/-- The points that a light module is drawn on, where the modules have sides of `cell`. Columns run
to the right, and rows downward. -/
def Lights (m : MatrixField) (grid : Symbol.Grid) (cell : Float32) (u v : Int) : Prop :=
  let round (a : Float32) : Int := a.round.toInt64.toInt
  let x := Float32.ofInt m.origin.x
  let y := Float32.ofInt m.origin.y
  ∃ row < grid.side, ∃ col < grid.side,
    grid.modules[row * grid.side + col]? = some false ∧
      (round (x + .ofNat col * cell) ≤ u ∧ u < round (x + .ofNat col * cell + cell)) ∧
      (round (y + .ofNat row * cell) ≤ v ∧ v < round (y + .ofNat row * cell + cell))

instance (m : MatrixField) (grid : Symbol.Grid) (cell : Float32) (u v : Int) :
    Decidable (m.Lights grid cell u v) :=
  inferInstanceAs (Decidable (∃ row, row < _ ∧ ∃ col, col < _ ∧ _))

/-- The patches of the light modules, in the order in which they are painted. -/
def lightPatches (m : MatrixField) (grid : Symbol.Grid) (cell : Float32) : List Patch :=
  (List.range grid.side).flatMap fun row =>
    (List.range grid.side).filterMap fun col =>
      if grid.isDark row col then none else some ⟨m.cellRect cell row col, .white⟩

theorem mem_lightPatches_iff {m : MatrixField} {grid : Symbol.Grid} {cell : Float32} {p : Patch} :
    p ∈ m.lightPatches grid cell ↔ ∃ row < grid.side, ∃ col < grid.side,
      grid.modules[row * grid.side + col]? = some false ∧
        p = ⟨m.cellRect cell row col, .white⟩ := by
  simp only [lightPatches, List.mem_flatMap, List.mem_filterMap, List.mem_range]
  refine exists_congr fun row => and_congr_right fun hrow => exists_congr fun col =>
    and_congr_right fun hcol => ?_
  rw [← Symbol.Grid.isDark_eq_false_iff hrow hcol]
  cases grid.isDark row col <;> simp [eq_comm]

theorem top?_lightPatches (m : MatrixField) (grid : Symbol.Grid) (cell : Float32) (u v : Int) :
    Patch.top? (m.lightPatches grid cell) u v =
      if m.Lights grid cell u v then some .white else none := by
  have hwhite : ∀ p ∈ m.lightPatches grid cell, p.color = .white := by
    intro p hp
    obtain ⟨row, -, col, -, -, rfl⟩ := mem_lightPatches_iff.1 hp
    rfl
  have hlights : (∃ p ∈ m.lightPatches grid cell, p.rect.Contains u v) ↔
      m.Lights grid cell u v := by
    constructor
    · rintro ⟨p, hp, hc⟩
      obtain ⟨row, hrow, col, hcol, hlight, rfl⟩ := mem_lightPatches_iff.1 hp
      exact ⟨row, hrow, col, hcol, hlight, ⟨hc.1, hc.2.1⟩, hc.2.2⟩
    · rintro ⟨row, hrow, col, hcol, hlight, hu, hv⟩
      exact ⟨_, mem_lightPatches_iff.2 ⟨row, hrow, col, hcol, hlight, rfl⟩, hu.1, hu.2, hv⟩
  rw [Patch.top?_of_color hwhite]
  simp only [hlights]

/-- A symbol is a black square, in which the light modules are white. -/
theorem top?_gridPatches (m : MatrixField) {grid : Symbol.Grid} (h : grid.side ≠ 0) (u v : Int) :
    let side := m.drawnSide grid.side
    Patch.top? (m.gridPatches grid) u v =
      if m.Lights grid (side / .ofNat grid.side) u v then some .white
      else if m.Covers side u v then some .black
      else none := by
  intro side
  have hsquare : (Rect.snapped (.ofInt m.origin.x) (.ofInt m.origin.y) side side).Contains u v ↔
      m.Covers side u v := and_assoc.symm
  have hpatches : m.gridPatches grid =
      ⟨Rect.snapped (.ofInt m.origin.x) (.ofInt m.origin.y) side side, .black⟩ ::
        m.lightPatches grid (side / .ofNat grid.side) := by
    rw [gridPatches, if_neg h]
    rfl
  rw [hpatches, Patch.top?_cons, top?_lightPatches]
  simp only [hsquare]
  by_cases hl : m.Lights grid (side / .ofNat grid.side) u v
  · rw [if_pos hl, if_pos hl, Option.some_or]
  · rw [if_neg hl, if_neg hl, Option.none_or]

theorem drawnSide_eq (m : MatrixField) (modules : Nat) :
    m.drawnSide modules =
      (m.side.filter (0 < ·)).elim (.ofNat modules * .ofNat m.dotSize) .ofNat * 0.85 := by
  rw [drawnSide, side?]
  cases m.side.filter (0 < ·) <;> rfl

end MatrixField

/-- A matrix symbol that has modules is drawn as a black square with its light modules in white, as
far as they can be seen; one without modules, or whose content is refused, is not drawn at all. -/
theorem Painter.get?_paint_matrix (painter : Painter) (c : Canvas) (m : MatrixField) :
    (∀ refusal, painter.generator m.content = .error refusal → painter.paint c (.matrix m) = c) ∧
    ∀ grid, painter.generator m.content = .ok grid →
      (grid.side = 0 → painter.paint c (.matrix m) = c) ∧
      (grid.side ≠ 0 →
        let side : Float32 :=
          (m.side.filter (0 < ·)).elim (.ofNat grid.side * .ofNat m.dotSize) .ofNat * 0.85
        let cell := side / .ofNat grid.side
        (painter.paint c (.matrix m)).frame = c.frame ∧
          ∀ u v, (painter.paint c (.matrix m)).get? u v = (c.get? u v).map fun old =>
            if m.Lights grid cell u v then .white
            else if m.Covers side u v then .black
            else old) := by
  refine ⟨fun refusal h => ?_, fun grid h => ⟨fun hzero => ?_, fun hside => ?_⟩⟩
  · rw [paint, MatrixField.patches_of_error h]
    rfl
  · rw [paint, MatrixField.patches_of_ok h, MatrixField.gridPatches, if_pos hzero]
    rfl
  · intro side cell
    refine ⟨painter.frame_paint c _, fun u v => ?_⟩
    rw [get?_paint_footprint painter c (e := .matrix m) trivial, Element.footprint?,
      MatrixField.patches_of_ok h, m.top?_gridPatches hside, m.drawnSide_eq]
    congr 1
    funext old
    split
    · rfl
    · split <;> rfl

/-- A symbol whose modules have a side that is no whole number, with its right column light; one
without modules, and one that is refused. -/
theorem Painter.get?_paint_matrix_halves :
    let grid : Symbol.Grid := .tabulate 2 fun _ col => col == 0
    let generator : Symbol.Generator := fun content =>
      if content = "x" then .ok grid
      else if content = "" then .ok (.tabulate 0 fun _ _ => true)
      else .error .tooLong
    let painter : Painter := ⟨generator, .bitmap, .white⟩
    let m : MatrixField := ⟨⟨9, 2⟩, 10, some 0, "x"⟩
    let c := painter.canvas ⟨40, 30, ⟨-9, -3⟩, 1.0⟩
    (generator "x" = .ok grid ∧ grid.side ≠ 0 ∧ generator "y" = .error .tooLong) ∧
      (∀ u v, (painter.paint c (.matrix m)).get? u v = (c.get? u v).map fun old =>
        if m.Lights grid 8.5 u v then .white else if m.Covers 17.0 u v then .black else old) ∧
      painter.paint c (.matrix { m with content := "" }) = c ∧
      painter.paint c (.matrix { m with content := "y" }) = c := by
  intro grid generator painter m c
  have hside : ((m.side.filter (0 < ·)).elim (Float32.ofNat grid.side * .ofNat m.dotSize) .ofNat *
      0.85 : Float32) = 17.0 := by decide +kernel
  have hcell : (17.0 / .ofNat grid.side : Float32) = 8.5 := by decide +kernel
  obtain ⟨-, hpaint⟩ := painter.get?_paint_matrix c m
  obtain ⟨-, hempty⟩ := painter.get?_paint_matrix c { m with content := "" }
  obtain ⟨hrefused, -⟩ := painter.get?_paint_matrix c { m with content := "y" }
  obtain ⟨-, hpaint⟩ := (hpaint grid rfl).2 (by decide)
  rw [hside, hcell] at hpaint
  exact ⟨⟨rfl, by decide, rfl⟩, hpaint, (hempty _ rfl).1 rfl, hrefused _ rfl⟩

end LabelRaster

import LabelRaster.Dot
import LabelRaster.Label.Element
import LabelRaster.Raster.Painting
import LabelRaster.Raster.Shape
import LabelRaster.Symbol.Bars
import LabelRaster.Symbol.Grid

/-!
# What boxes and symbols are painted as

A box, a linear barcode and a matrix symbol are painted as patches, one over the
other. A matrix symbol is a black square with a white patch for each light
module; it is drawn at less than its nominal size.
-/

namespace LabelRaster

namespace BoxField

/-- The black patches of a box: a single line if one side is zero, none if both are. -/
def patches (b : BoxField) : List Patch :=
  let x := b.origin.x
  let y := b.origin.y
  let lines :=
    if b.width = 0 ∧ b.height = 0 then []
    else if b.width = 0 then [Rect.vertical x y b.height b.thickness]
    else if b.height = 0 then [Rect.horizontal x y b.width b.thickness]
    else Rect.frame x y b.width b.height b.thickness
  lines.map fun r => ⟨r, .black⟩

end BoxField

namespace BarField

/-- The patches of modules `step` dots wide, the first one at `x`. -/
def patchesFrom (y step height : Int) : List Bool → Int → List Patch
  | [], _ => []
  | true :: rest, x =>
    ⟨Rect.sized x y step height, .black⟩ :: patchesFrom y step height rest (Dot.add x step)
  | false :: rest, x => patchesFrom y step height rest (Dot.add x step)

/-- The black patches of a linear barcode: one for each dark module. -/
def patches (b : BarField) : List Patch :=
  patchesFrom b.origin.y
    (min (Symbol.Bars.fittedModuleWidth b.content b.moduleWidth : Int) Dot.greatest)
    (min (b.height : Int) Dot.greatest) (Symbol.Bars.modules b.content) b.origin.x

end BarField

namespace MatrixField

/-- The share of its nominal size that a symbol is drawn at. -/
def shrink : Float32 := 0.85

/-- The side of a symbol as it is drawn, given the number of modules on a side. -/
def drawnSide (m : MatrixField) (modules : Nat) : Float32 :=
  (match m.side? with
    | some side => Float32.ofNat side
    | none => Float32.ofNat modules * Float32.ofNat m.dotSize) * shrink

/-- The patch of the module in `row` and `col`, of side `cell`. -/
def cellRect (m : MatrixField) (cell : Float32) (row col : Nat) : Rect :=
  Rect.snapped (Float32.ofInt m.origin.x + Float32.ofNat col * cell)
    (Float32.ofInt m.origin.y + Float32.ofNat row * cell) cell cell

/-- The patches of a symbol whose modules are known: a black square and its light modules. -/
def gridPatches (m : MatrixField) (grid : Symbol.Grid) : List Patch :=
  if grid.side = 0 then []
  else
    let side := m.drawnSide grid.side
    let cell := side / Float32.ofNat grid.side
    let square := Rect.snapped (Float32.ofInt m.origin.x) (Float32.ofInt m.origin.y) side side
    ⟨square, .black⟩ :: (List.range grid.side).flatMap fun row =>
      (List.range grid.side).filterMap fun col =>
        if grid.isDark row col then none else some ⟨m.cellRect cell row col, .white⟩

/-- The patches of a matrix symbol; none if the generator refuses its content. -/
def patches (generator : Symbol.Generator) (m : MatrixField) : List Patch :=
  match generator m.content with
  | .ok grid => m.gridPatches grid
  | .error _ => []

theorem patches_of_ok {generator : Symbol.Generator} {m : MatrixField} {grid : Symbol.Grid}
    (h : generator m.content = .ok grid) : m.patches generator = m.gridPatches grid := by
  rw [patches, h]

/-- A symbol that is refused is not painted. -/
theorem patches_of_error {generator : Symbol.Generator} {m : MatrixField} {refusal : Symbol.Refusal}
    (h : generator m.content = .error refusal) : m.patches generator = [] := by
  rw [patches, h]

end MatrixField

end LabelRaster

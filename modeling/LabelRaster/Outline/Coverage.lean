import LabelRaster.Face.Ink
import LabelRaster.Outline.Curve
import Std.Data.TreeMap.Basic

/-!
# The coverage of pixels by an outline

Each line of an outline adds to the pixels that it passes, row by row, how much
of the area to its right it gains or loses; the running sum over all pixels is
then how much of each pixel the outline covers, up to its sign. A curve counts as
a number of lines. Only the pixels that lines pass are kept, so that the work
follows the length of the outline and not its area.
-/

namespace LabelRaster.Outline

/-- The whole number next to a float on the side of zero. -/
def truncate (v : Float32) : Float32 := if v < 0.0 then v.ceil else v.floor

/-- The whole number next to a float on the side of zero, from zero on. -/
def natural (v : Float32) : Nat := v.toUInt64.toNat

/-- The greater of two floats. -/
def greater (a b : Float32) : Float32 := if a < b then b else a

/-- The lesser of two floats. -/
def lesser (a b : Float32) : Float32 := if b < a then b else a

/-- The changes of area at the pixels of a box. -/
structure Coverage where
  width : Nat
  height : Nat
  /-- The changes at the pixels that have one, numbered row by row. -/
  changes : Std.TreeMap Nat Float32

namespace Coverage

/-- No change. -/
def empty (width height : Nat) : Coverage := ⟨width, height, ∅⟩

/-- The number of places for changes: the pixels, and four more at the end. -/
def places (c : Coverage) : Nat := c.width * c.height + 4

/-- Makes changes in order up to the first one that has no place; whether all have been made. -/
def change (c : Coverage) : List (Int × Float32) → Coverage × Bool
  | [] => (c, true)
  | (i, amount) :: rest =>
    if 0 ≤ i ∧ i.toNat < c.places then
      change { c with changes := c.changes.alter i.toNat fun old => old.getD 0.0 + amount } rest
    else (c, false)

/-- The changes in a row, whose first pixel has number `row`, by a line that goes in it from `x` to
`next` and gains the height `d`. -/
def rowChanges (row : Nat) (d x next : Float32) : List (Int × Float32) :=
  let low := if x < next then x else next
  let high := if x < next then next else x
  let first := low.floor.toInt32.toInt
  let last := high.ceil.toInt32.toInt
  let start := (row : Int) + first
  if last ≤ first + 1 then
    let middle := 0.5 * (x + next) - low.floor
    [(start, d - d * middle), (start + 1, d * middle)]
  else
    let s := 1.0 / (high - low)
    let f := low - low.floor
    let a := 0.5 * s * (1.0 - f) * (1.0 - f)
    let g := high - high.ceil + 1.0
    let z := 0.5 * s * g * g
    let inner : List (Int × Float32) :=
      if last = first + 2 then [(start + 1, d * (1.0 - a - z))]
      else
        let b := s * (1.5 - f)
        let full := (last - first - 3).toNat
        let e := b + Float32.ofInt (last - first - 3) * s
        (start + 1, d * (b - a)) ::
          (List.range full).map (fun k : Nat => (start + 2 + (k : Int), d * s)) ++
          [((row : Int) + last - 1, d * (1.0 - e - z))]
    (start, d * a) :: inner ++ [((row : Int) + last, d * z)]

/-- The changes by a line from `p` down to `q`, in `n` rows from row `y` on; `x` is where the line
comes into the row. -/
def addRows (p q : Position) (slope direction : Float32) :
    Nat → Nat → Float32 → Coverage → Coverage
  | 0, _, _, c => c
  | n + 1, y, x, c =>
    let height := lesser (Float32.ofNat y + 1.0) q.y - greater (Float32.ofNat y) p.y
    let next := x + slope * height
    let (c, complete) := c.change (rowChanges (y * c.width) (height * direction) x next)
    addRows p q slope direction n (y + 1) (if complete then next else x) c

/-- The changes by a line. A level line makes none. -/
def addLine (c : Coverage) (p q : Position) : Coverage :=
  if (p.y - q.y).abs ≤ Float32.ofBits 0x34000000 then c
  else
    let (direction, p, q) := if p.y < q.y then ((1.0 : Float32), p, q) else (-1.0, q, p)
    let slope := (q.x - p.x) / (q.y - p.y)
    let x := if p.y < 0.0 then p.x - p.y * slope else p.x
    let first := natural (greater p.y 0.0)
    let stop := min c.height (natural q.y.ceil)
    addRows p q slope direction (stop - first) first x c

/-- The changes by lines to places on a curve, `n` more of them, `step` apart; then to its end. -/
def addPieces (start control stop : Position) (step : Float32) :
    Nat → Float32 → Position → Coverage → Coverage
  | 0, _, here, c => c.addLine here stop
  | n + 1, t, here, c =>
    let t := t + step
    let there := .toward t (.toward t start control) (.toward t control stop)
    addPieces start control stop step n t there (c.addLine here there)

/-- The changes by a curve. The farther its control place is off, the more lines it counts as. -/
def addCurve (c : Coverage) : Curve → Coverage
  | .line p q => c.addLine p q
  | .quadratic p control q =>
    let dx := p.x - 2.0 * control.x + q.x
    let dy := p.y - 2.0 * control.y + q.y
    let deviation := dx * dx + dy * dy
    if deviation < 0.333 then c.addLine p q
    else
      let n := 1 + natural (3.0 * deviation).sqrt.sqrt.floor
      addPieces p control q (1.0 / Float32.ofNat n) (n - 1) 0.0 p c

/-- A walk over the pixels of a box in order: the running sum, the changes ahead and the ink of a
line to which the coverage of the pixels is added. -/
structure Walk where
  sum : Float32
  ahead : List (Nat × Float32)
  ink : Ink

/-- The running sum after all changes up to pixel number `k`, and the changes that are left. -/
def sumUpTo (k : Nat) (sum : Float32) : List (Nat × Float32) → Float32 × List (Nat × Float32)
  | [] => (sum, [])
  | (i, amount) :: rest =>
    if i ≤ k then sumUpTo k (sum + amount) rest else (sum, (i, amount) :: rest)

/-- Goes on to pixel number `k`, which is dot `(u, v)` of the line. -/
def Walk.visit (walk : Walk) (k u v : Nat) : Walk :=
  let (sum, ahead) := sumUpTo k walk.sum walk.ahead
  ⟨sum, ahead, walk.ink.add u v sum.abs⟩

/-- Adds the coverage of a box of pixels, the first of which is dot `(left, top)`, to the ink of a
line; only the pixels in the window are visited. -/
def addTo (c : Coverage) (left top : Int) (ink : Ink) : Ink :=
  let w := ink.window
  let firstColumn := max left.toNat w.left
  let firstRow := max top.toNat w.top
  let columns := List.range' firstColumn (min (left + c.width).toNat w.right - firstColumn)
  let rows := List.range' firstRow (min (top + c.height).toNat w.bottom - firstRow)
  let walk := rows.foldl (fun walk v =>
    columns.foldl (fun walk u =>
      walk.visit ((v - top).toNat * c.width + (u - left).toNat) u v) walk)
    (⟨0.0, c.changes.toList, ink⟩ : Walk)
  walk.ink

end Coverage

end LabelRaster.Outline

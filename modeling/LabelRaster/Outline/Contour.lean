import LabelRaster.Outline.Curve
import LabelRaster.Outline.Font

/-!
# The outlines of glyphs

A simple glyph lists the points of its contours: where the contours end, a flag
for each point, then the steps from point to point, first all along the one axis,
then all along the other. The ends need not be in order: the last of them tells how
many points there are. A composite glyph is made of other glyphs, each of them
scaled and moved.
-/

namespace LabelRaster.Outline

/-- How a part of a composite glyph is changed: a matrix and a displacement. -/
structure Placing where
  xx : Float32
  xy : Float32
  yx : Float32
  yy : Float32
  dx : Float32
  dy : Float32

namespace Placing

/-- No change. -/
def identity : Placing := ⟨1.0, 0.0, 0.0, 1.0, 0.0, 0.0⟩

/-- A place after a change. -/
def apply (t : Placing) (p : Position) : Position :=
  ⟨t.xx * p.x + t.yx * p.y + t.dx, t.xy * p.x + t.yy * p.y + t.dy⟩

/-- The change that makes `s` first and then `t`. -/
def after (t s : Placing) : Placing where
  xx := t.xx * s.xx + t.yx * s.xy
  xy := t.xy * s.xx + t.yy * s.xy
  yx := t.xx * s.yx + t.yx * s.yy
  yy := t.xy * s.yx + t.yy * s.yy
  dx := t.xx * s.dx + t.yx * s.dy + t.dx
  dy := t.xy * s.dx + t.yy * s.dy + t.dy

end Placing

/-! ## Simple glyphs -/

namespace Simple

/-- The flags of `left` points from a place on, and the place after them. A flag may stand for
several points. -/
def flags? (b : Bytes) : Nat → Nat → Option (List Nat × Nat)
  | 0, i => some ([], i)
  | left + 1, i => do
    let flag ← b.u8? i
    if flag.testBit 3 then
      let more ← b.u8? (i + 1)
      if left < more then none
      else
        let (flags, j) ← flags? b (left - more) (i + 2)
        return (List.replicate (more + 1) flag ++ flags, j)
    else
      let (flags, j) ← flags? b left (i + 1)
      return (flag :: flags, j)
termination_by left => left
decreasing_by all_goals omega

/-- The number of bytes that a step takes. -/
def stepSize (short same : Nat) (flag : Nat) : Nat :=
  if flag.testBit short then 1 else if flag.testBit same then 0 else 2

/-- The coordinates along an axis. Bit `short` of a flag marks a step of one byte; bit `same` then
gives its sign, and else marks a step of zero. -/
def coordinates (b : Bytes) (short same : Nat) : List Nat → Nat → Int → List Int
  | [], _, _ => []
  | flag :: flags, i, here =>
    let step : Int :=
      if flag.testBit short then
        let n : Int := ((b.u8? i).getD 0 : Nat)
        if flag.testBit same then n else -n
      else if flag.testBit same then 0
      else (b.i16? i).getD 0
    let there := Bytes.signed 16 ((here + step) % 65536).toNat
    there :: coordinates b short same flags (i + stepSize short same flag) there

/-- The number of points of each contour, given the numbers of their last points. Every contour has
a point at least, whatever the order of these numbers. -/
def sizes : List Nat → List Nat
  | [] => []
  | first :: rest =>
    (first + 1) :: List.zipWith (fun a b => max 1 (b - a)) (first :: rest) rest

/-- The moves along contours of the given sizes. Points that are left over are contours of one
point, and a contour for which there are too few breaks off. -/
def moves (points : List ContourPoint) : List Nat → List Move
  | [] => points.flatMap fun p => Move.ofContour [p]
  | n :: ns =>
    if n ≤ points.length then Move.ofContour (points.take n) ++ moves (points.drop n) ns
    else Move.ofBroken points

/-- The moves along a simple glyph of `count` contours. -/
def moves? (b : Bytes) (count : Nat) : Option (List Move) := do
  let ends ← b.u16s? 10 count
  let total := (ends.getLast?.getD 0) + 1
  if total = 1 then return []
  else
    guard (total < 65536)
    let instructions ← b.u16? (10 + 2 * count)
    let (flags, i) ← flags? b total (12 + 2 * count + instructions)
    let j := i + (flags.map (stepSize 1 4)).foldr (· + ·) 0
    guard (j + (flags.map (stepSize 2 5)).foldr (· + ·) 0 ≤ b.size)
    let xs := coordinates b 1 4 flags i 0
    let ys := coordinates b 2 5 flags j 0
    let places := List.zipWith (fun x y => Position.mk (Float32.ofInt x) (Float32.ofInt y)) xs ys
    let points := List.zipWith (fun p flag => ContourPoint.mk p (flag.testBit 0)) places flags
    return moves points (sizes ends)

end Simple

/-! ## Composite glyphs -/

/-- A part of a composite glyph. -/
structure Component where
  glyph : Nat
  placing : Placing

namespace Component

/-- A share of one in fourteen binary places. -/
def fraction? (b : Bytes) (i : Nat) : Option Float32 :=
  (b.i16? i).map fun n => Float32.ofInt n / 16384.0

/-- The displacement of a part and the place after it. -/
def displacement? (b : Bytes) (flag i : Nat) : Option (Float32 × Float32 × Nat) := do
  if flag.testBit 1 then
    if flag.testBit 0 then
      return (Float32.ofInt (← b.i16? i), Float32.ofInt (← b.i16? (i + 2)), i + 4)
    else
      return (Float32.ofInt (← b.i8? i), Float32.ofInt (← b.i8? (i + 1)), i + 2)
  else return (0.0, 0.0, i)

/-- The matrix of a part and the place after it. -/
def matrix? (b : Bytes) (flag i : Nat) : Option (Placing × Nat) := do
  let t := Placing.identity
  if flag.testBit 7 then
    return ({ t with
      xx := ← fraction? b i
      xy := ← fraction? b (i + 2)
      yx := ← fraction? b (i + 4)
      yy := ← fraction? b (i + 6) }, i + 8)
  else if flag.testBit 6 then
    return ({ t with xx := ← fraction? b i, yy := ← fraction? b (i + 2) }, i + 4)
  else if flag.testBit 3 then
    let scale ← fraction? b i
    return ({ t with xx := scale, yy := scale }, i + 2)
  else return (t, i)

/-- The parts of a composite glyph from a place on. A part that is cut off ends the list. -/
def list (b : Bytes) : Nat → Nat → List Component
  | 0, _ => []
  | limit + 1, i =>
    let next : Option (Nat × Component × Nat) := do
      let flag ← b.u16? i
      let glyph ← b.u16? (i + 2)
      let (dx, dy, j) ← displacement? b flag (i + 4)
      let (t, k) ← matrix? b flag j
      return (flag, ⟨glyph, { t with dx, dy }⟩, k)
    match next with
    | some (flag, c, k) => c :: if flag.testBit 5 then list b limit k else []
    | none => []

end Component

namespace Font

/-- The deepest nesting of composite glyphs. -/
def deepest : Nat := 32

/-- The moves in the bytes of a glyph's outline. -/
def movesOf? (font : Font) : Nat → Placing → Bytes → Option (List Move)
  | 0, _, _ => none
  | depth + 1, placing, b => do
    let count ← b.i16? 0
    if 0 < count then
      guard (10 ≤ b.size)
      return (← Simple.moves? b count.toNat).map (Move.map placing.apply)
    else if count < 0 then
      guard (10 ≤ b.size)
      let parts ← (Component.list b b.size 10).mapM fun c =>
        match font.outline? c.glyph with
        | some part => movesOf? font depth (placing.after c.placing) part
        | none => some []
      return parts.flatten
    else return []

/-- The moves along a glyph's outline, in the font's units. -/
def moves? (font : Font) (glyph : Nat) : Option (List Move) :=
  (font.outline? glyph).bind (movesOf? font deepest Placing.identity)

end Font

end LabelRaster.Outline

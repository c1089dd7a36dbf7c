import LabelRaster.Symbol.Grid
import LabelRaster.Symbol.Qr.Correction
import LabelRaster.Symbol.Qr.Mask

/-!
# The QR generator

`Qr.generator` encodes a content, as the bytes of its UTF-8 form, in the smallest
QR symbol that holds it at a level. The segments are chosen for one class of
versions after the other, from small to large, until the content fits.
-/

namespace LabelRaster.Symbol.Qr

/-- The last version of each class of length fields. -/
def classEnds : List Version := [8, 25, 39]

/-- The segments of a content, and the smallest version that holds them. -/
def plan? (level : Level) (bytes : List UInt8) : Option (Version × List Segment) :=
  classEnds.findSome? fun last =>
    let ss := Segment.ofBytes last bytes
    let bits := Segment.totalBits last ss
    if bits ≤ last.dataBits level then
      (Version.smallest? level bits).map fun v => (v, ss)
    else none

/-- The symbol of version `v` with the codewords `words`. -/
def grid (v : Version) (level : Level) (words : List UInt8) : Grid :=
  let roles := roles v
  let data := placed v.side roles words
  let candidates := (List.range 8).map (masked v.side roles data level)
  let modules := (least v.side candidates).getD #[]
  Grid.tabulate v.side fun row col => modules.getD (row * v.side + col) false

/-- Encodes contents as QR symbols at a level. -/
def generator (level : Level) : Generator := fun content =>
  let bytes := content.toUTF8.toList
  match plan? level bytes with
  | none => .error .tooLong
  | some (v, ss) =>
    .ok (grid v level (allCodewords v level (dataCodewords v level bytes.toArray ss)))

end LabelRaster.Symbol.Qr

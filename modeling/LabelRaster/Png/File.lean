import LabelRaster.Png.Chunk
import LabelRaster.Raster.Picture

/-!
# PNG files

A picture is written as three chunks: its size and form, its pixels, and the end.
Each row of pixels starts with a byte that says that the row is not filtered.
`read?` reads back what `write` writes.
-/

namespace LabelRaster.Png

/-- The bytes that every file starts with. -/
def signature : List UInt8 := [0x89, 0x50, 0x4e, 0x47, 0x0d, 0x0a, 0x1a, 0x0a]

/-- The size of a picture, and that its pixels have four channels of eight bits. -/
def header (p : Picture) : Chunk :=
  .ofName "IHDR" (bigEndian 4 p.width ++ bigEndian 4 p.height ++ [8, 6, 0, 0, 0])

/-- The rows of a picture, none of them filtered. -/
def rows (p : Picture) : List UInt8 :=
  (List.range p.height).flatMap fun y =>
    0 :: (p.pixels.extract (y * p.width) ((y + 1) * p.width)).toList.flatMap Color.bytes

/-- A picture as a file. -/
def write (p : Picture) : List UInt8 :=
  signature ++ (header p).bytes ++ (Chunk.ofName "IDAT" (deflate (rows p))).bytes ++
    (Chunk.ofName "IEND" []).bytes

/-- The pixels in some bytes, four bytes each; `done` are the ones before, the last one first. -/
def pixels? (done : List Color) : List UInt8 → Option (List Color)
  | [] => some done.reverse
  | r :: g :: b :: a :: rest => pixels? (⟨r, g, b, a⟩ :: done) rest
  | _ => none

/-- The pixels of unfiltered rows, in the given number of rows. -/
def readRows? (width : Nat) : Nat → List UInt8 → Option (List (List Color))
  | 0, [] => some []
  | n + 1, 0 :: rest => do
    let row ← pixels? [] (rest.take (4 * width))
    return row :: (← readRows? width n (rest.drop (4 * width)))
  | _, _ => none

/-- The picture in a file of the form that `write` has. -/
def read? (file : List UInt8) : Option Picture := do
  if file.take 8 = signature then
    let (head, rest) ← Chunk.read? (file.drop 8)
    let (data, rest) ← Chunk.read? rest
    let (stop, rest) ← Chunk.read? rest
    let width := ofBigEndian (head.data.take 4)
    let height := ofBigEndian ((head.data.drop 4).take 4)
    let found ← readRows? width height (← inflate? data.data)
    let pixels := found.flatten.toArray
    if h : pixels.size = width * height then
      let p : Picture := ⟨width, height, pixels, h⟩
      if head = header p ∧ data.name = (Chunk.ofName "IDAT" []).name ∧
          stop = Chunk.ofName "IEND" [] ∧ rest = [] then some p
      else none
    else none
  else none

end LabelRaster.Png

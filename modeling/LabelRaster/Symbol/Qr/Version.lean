/-!
# Versions and levels of QR symbols

A QR symbol has one of forty versions, which fix its side, and one of four
levels of error correction. Together they fix how many codewords carry data and
how they are split into blocks.
-/

namespace LabelRaster.Symbol.Qr

/-- The share of codewords spent on error correction, from least to most. -/
inductive Level where
  | low
  | medium
  | quartile
  | high
deriving DecidableEq, Repr, Inhabited

/-- A version, counted from zero. -/
abbrev Version := Fin 40

namespace Version

/-- The number by which a version is known. -/
def number (v : Version) : Nat := v + 1

/-- The modules along a side. -/
def side (v : Version) : Nat := 4 * v.number + 17

/-- The number of rows, and of columns, that alignment patterns stand in. -/
def alignmentCount (v : Version) : Nat := if v.number = 1 then 0 else v.number / 7 + 2

/-- The rows, and the columns, that alignment patterns are centred on. They are evenly spaced
from the far side, and only the first gap is narrower. -/
def alignmentCentres (v : Version) : List Nat :=
  match v.alignmentCount with
  | 0 => []
  | count + 1 =>
    let gap := if v.number = 32 then 26 else (4 * v.number + 2 * count + 3) / (2 * count) * 2
    6 :: ((List.range count).map fun i => v.side - 7 - i * gap).reverse

/-- The number of codewords of a symbol. -/
def codewords (v : Version) : Nat :=
  let n := v.number
  let a := v.alignmentCount
  let free := (16 * n + 128) * n + 64
  let aligned := if n = 1 then 0 else (25 * a - 10) * a - 55
  let versioned := if n < 7 then 0 else 36
  (free - aligned - versioned) / 8

/-- The number of error correction codewords of each block. -/
def correctionLength : Level → Vector Nat 40
  | .low => #v[7, 10, 15, 20, 26, 18, 20, 24, 30, 18, 20, 24, 26, 30, 22, 24, 28, 30, 28, 28,
      28, 28, 30, 30, 26, 28, 30, 30, 30, 30, 30, 30, 30, 30, 30, 30, 30, 30, 30, 30]
  | .medium => #v[10, 16, 26, 18, 24, 16, 18, 22, 22, 26, 30, 22, 22, 24, 24, 28, 28, 26, 26, 26,
      26, 28, 28, 28, 28, 28, 28, 28, 28, 28, 28, 28, 28, 28, 28, 28, 28, 28, 28, 28]
  | .quartile => #v[13, 22, 18, 26, 18, 24, 18, 22, 20, 24, 28, 26, 24, 20, 30, 24, 28, 28, 26, 30,
      28, 30, 30, 30, 30, 28, 30, 30, 30, 30, 30, 30, 30, 30, 30, 30, 30, 30, 30, 30]
  | .high => #v[17, 28, 22, 16, 22, 28, 26, 26, 24, 28, 24, 28, 22, 24, 24, 30, 28, 28, 26, 28,
      30, 24, 30, 30, 30, 30, 30, 30, 30, 30, 30, 30, 30, 30, 30, 30, 30, 30, 30, 30]

/-- The number of blocks. -/
def blockCount : Level → Vector Nat 40
  | .low => #v[1, 1, 1, 1, 1, 2, 2, 2, 2, 4, 4, 4, 4, 4, 6, 6, 6, 6, 7, 8,
      8, 9, 9, 10, 12, 12, 12, 13, 14, 15, 16, 17, 18, 19, 19, 20, 21, 22, 24, 25]
  | .medium => #v[1, 1, 1, 2, 2, 4, 4, 4, 5, 5, 5, 8, 9, 9, 10, 10, 11, 13, 14, 16,
      17, 17, 18, 20, 21, 23, 25, 26, 28, 29, 31, 33, 35, 37, 38, 40, 43, 45, 47, 49]
  | .quartile => #v[1, 1, 2, 2, 4, 4, 6, 6, 8, 8, 8, 10, 12, 16, 12, 17, 16, 18, 21, 20,
      23, 23, 25, 27, 29, 34, 34, 35, 38, 40, 43, 45, 48, 51, 53, 56, 59, 62, 65, 68]
  | .high => #v[1, 1, 2, 4, 4, 4, 5, 6, 8, 8, 11, 11, 16, 16, 18, 16, 19, 21, 25, 25,
      25, 34, 30, 32, 35, 37, 40, 42, 45, 48, 51, 54, 57, 60, 63, 66, 70, 74, 77, 81]

/-- The number of codewords that carry data. -/
def dataCodewords (v : Version) (level : Level) : Nat :=
  v.codewords - (correctionLength level)[v] * (blockCount level)[v]

/-- The number of bits that carry data. -/
def dataBits (v : Version) (level : Level) : Nat := 8 * v.dataCodewords level

/-- The smallest version that can carry `bits` bits of data. -/
def smallest? (level : Level) (bits : Nat) : Option Version :=
  (List.finRange 40).find? fun v => bits ≤ v.dataBits level

end Version

end LabelRaster.Symbol.Qr

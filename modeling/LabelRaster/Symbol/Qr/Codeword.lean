import LabelRaster.Symbol.Qr.Segment

/-!
# Codewords

The segments of a content are written as one stream of bits: for each its mode,
its length and its data. The stream is closed by up to four zeros, filled up to
a whole codeword, and padded with alternating codewords to the capacity of the
symbol.
-/

namespace LabelRaster.Symbol.Qr

/-- The low `width` bits of `n`, the most significant first. -/
def bitsOf (width n : Nat) : List Bool := (List.range width).reverse.map n.testBit

/-- The number that some bits write, the most significant first. -/
def ofBits (bits : List Bool) : Nat := bits.foldl (fun n b => 2 * n + b.toNat) 0

/-- The value of a digit byte. -/
def digitOf (b : UInt8) : Nat := b.toNat - 0x30

/-- The value of a byte in the alphanumeric mode. -/
def alphanumericOf (b : UInt8) : Nat :=
  let n := b.toNat
  if 0x30 ≤ n ∧ n ≤ 0x39 then n - 0x30
  else if 0x41 ≤ n ∧ n ≤ 0x5a then n - 0x41 + 10
  else if n = 0x20 then 36
  else if n = 0x24 then 37
  else if n = 0x25 then 38
  else if n = 0x2a then 39
  else if n = 0x2b then 40
  else if n = 0x2d then 41
  else if n = 0x2e then 42
  else if n = 0x2f then 43
  else 44

/-- The value of a double-byte character: its place in a table with rows of 192. -/
def kanjiOf (lead trail : UInt8) : Nat :=
  let c := 256 * lead.toNat + trail.toNat
  let place := if c < 0xe040 then c - 0x8140 else c - 0xc140
  place / 256 * 0xc0 + place % 256

/-- Digits, three to ten bits. -/
def numericBits : List UInt8 → List Bool
  | a :: b :: c :: r =>
    bitsOf 10 (100 * digitOf a + 10 * digitOf b + digitOf c) ++ numericBits r
  | [a, b] => bitsOf 7 (10 * digitOf a + digitOf b)
  | [a] => bitsOf 4 (digitOf a)
  | [] => []

/-- Alphanumeric characters, two to eleven bits. -/
def alphanumericBits : List UInt8 → List Bool
  | a :: b :: r => bitsOf 11 (45 * alphanumericOf a + alphanumericOf b) ++ alphanumericBits r
  | [a] => bitsOf 6 (alphanumericOf a)
  | [] => []

/-- Double-byte characters, thirteen bits each. -/
def kanjiBits : List UInt8 → List Bool
  | a :: b :: r => bitsOf 13 (kanjiOf a b) ++ kanjiBits r
  | _ => []

namespace Segment

/-- The number of characters that a segment's length field gives. -/
def count (s : Segment) : Nat := if s.mode = .kanji then s.length / 2 else s.length

/-- The data of a segment of `bytes`. -/
def payload (bytes : Array UInt8) (s : Segment) : List Bool :=
  let data := (bytes.extract s.start s.stop).toList
  match s.mode with
  | .numeric => numericBits data
  | .alphanumeric => alphanumericBits data
  | .byte => data.flatMap fun b => bitsOf 8 b.toNat
  | .kanji => kanjiBits data

/-- A segment of `bytes` as it is written. -/
def write (v : Version) (bytes : Array UInt8) (s : Segment) : List Bool :=
  bitsOf 4 s.mode.indicator ++ bitsOf (s.mode.lengthBits v) s.count ++ s.payload bytes

end Segment

/-- The codewords of a stream of bits; a short last one is filled up with zeros. -/
def codewordsOf : List Bool → List UInt8
  | a :: b :: c :: d :: e :: f :: g :: h :: r =>
    (ofBits [a, b, c, d, e, f, g, h]).toUInt8 :: codewordsOf r
  | [] => []
  | last => [(ofBits (last ++ List.replicate (8 - last.length) false)).toUInt8]

/-- The codewords that fill a symbol up: two in turn. -/
def padding (n : Nat) : List UInt8 := (List.range n).map fun i => if i % 2 = 0 then 0xec else 0x11

/-- The data codewords of a symbol that holds some segments of `bytes`. -/
def dataCodewords (v : Version) (level : Level) (bytes : Array UInt8) (ss : List Segment) :
    List UInt8 :=
  let bits := ss.flatMap (Segment.write v bytes)
  let closed := bits ++ List.replicate (min 4 (v.dataBits level - bits.length)) false
  let words := codewordsOf closed
  words ++ padding (v.dataCodewords level - words.length)

end LabelRaster.Symbol.Qr

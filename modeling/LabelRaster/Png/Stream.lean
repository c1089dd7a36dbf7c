/-!
# Streams

The pixels in a PNG file are a zlib stream. It is written here without
compression: a header, the data in stored blocks, and a checksum. A block holds
at most 65535 bytes; its first byte tells whether it is the last, and its length
is written twice, the second time inverted.
-/

namespace LabelRaster.Png

/-- A number in `count` bytes, the most significant first. -/
def bigEndian : Nat → Nat → List UInt8
  | 0, _ => []
  | count + 1, n => UInt8.ofNat (n / 256 ^ count) :: bigEndian count n

/-- The number written in some bytes, the most significant first. -/
def ofBigEndian (bytes : List UInt8) : Nat := bytes.foldl (fun n b => 256 * n + b.toNat) 0

/-- The two sums of the checksum over a stream's data, modulo 65521. -/
def adler (data : List UInt8) : Nat × Nat :=
  data.foldl (fun (a, b) byte =>
    let a := (a + byte.toNat) % 65521
    (a, (b + a) % 65521)) (1, 0)

/-- The checksum over a stream's data. -/
def adlerBytes (data : List UInt8) : List UInt8 :=
  let (a, b) := adler data
  bigEndian 2 b ++ bigEndian 2 a

/-- The most bytes that a stored block holds. -/
def blockSize : Nat := 65535

/-- A stored block. -/
def block (last : Bool) (data : List UInt8) : List UInt8 :=
  let n := data.length
  let inverted := blockSize - n
  (if last then 1 else 0) :: UInt8.ofNat (n % 256) :: UInt8.ofNat (n / 256) ::
    UInt8.ofNat (inverted % 256) :: UInt8.ofNat (inverted / 256) :: data

/-- Data in stored blocks. -/
def blocks (data : List UInt8) : List UInt8 :=
  if data.length ≤ blockSize then block true data
  else block false (data.take blockSize) ++ blocks (data.drop blockSize)
termination_by data.length
decreasing_by simp only [List.length_drop, blockSize] at *; omega

/-- Data as a stream. -/
def deflate (data : List UInt8) : List UInt8 := 0x78 :: 0x01 :: (blocks data ++ adlerBytes data)

/-- The data in stored blocks, and what follows them; `limit` bounds the number of blocks. -/
def readBlocks? : Nat → List UInt8 → Option (List UInt8 × List UInt8)
  | 0, _ => none
  | limit + 1, last :: a :: b :: c :: d :: rest =>
    let n := a.toNat + 256 * b.toNat
    if c.toNat + 256 * d.toNat = blockSize - n ∧ n ≤ rest.length then
      if last = 1 then some (rest.take n, rest.drop n)
      else if last = 0 then
        (readBlocks? limit (rest.drop n)).map fun (data, after) => (rest.take n ++ data, after)
      else none
    else none
  | _, _ => none

/-- The data of a stream of stored blocks. -/
def inflate? : List UInt8 → Option (List UInt8)
  | 0x78 :: 0x01 :: rest => do
    let (data, after) ← readBlocks? (rest.length + 1) rest
    if after = adlerBytes data then some data else none
  | _ => none

end LabelRaster.Png

import LabelRaster.Png.Stream

/-!
# Chunks

A PNG file is a signature and a row of chunks. A chunk has a length, a name of
four letters, data, and a cyclic checksum over name and data.
-/

namespace LabelRaster.Png

/-- The cyclic checksum after eight more bits of zeros. -/
def crcShift (crc : UInt32) : UInt32 :=
  (List.range 8).foldl (fun c _ => if c &&& 1 = 1 then (0xedb88320 : UInt32) ^^^ (c >>> 1) else c >>> 1) crc

/-- The checksum of each byte. -/
def crcTable : Array UInt32 := Array.ofFn fun i : Fin 256 => crcShift (UInt32.ofNat i)

/-- The checksum after one more byte. -/
def crcStep (crc : UInt32) (byte : UInt8) : UInt32 :=
  crcTable.getD ((crc ^^^ byte.toUInt32) &&& 0xff).toNat 0 ^^^ (crc >>> 8)

/-- The cyclic checksum of some bytes. -/
def crc (bytes : List UInt8) : Nat := (bytes.foldl crcStep 0xffffffff ^^^ (0xffffffff : UInt32)).toNat

/-- A part of a PNG file. -/
structure Chunk where
  name : List UInt8
  data : List UInt8
deriving DecidableEq, Repr

namespace Chunk

/-- A chunk with its name as a text. -/
def ofName (name : String) (data : List UInt8) : Chunk :=
  ⟨name.toList.map fun c => UInt8.ofNat c.toNat, data⟩

/-- A chunk as it is written. -/
def bytes (c : Chunk) : List UInt8 :=
  bigEndian 4 c.data.length ++ c.name ++ c.data ++ bigEndian 4 (crc (c.name ++ c.data))

/-- The first chunk in some bytes, and what follows it. -/
def read? (bytes : List UInt8) : Option (Chunk × List UInt8) :=
  let length := ofBigEndian (bytes.take 4)
  let body := bytes.drop 4
  let chunk : Chunk := ⟨body.take 4, (body.drop 4).take length⟩
  let rest := body.drop (4 + length)
  if 12 + length ≤ bytes.length ∧ rest.take 4 = bigEndian 4 (crc (chunk.name ++ chunk.data)) then
    some (chunk, rest.drop 4)
  else none

end Chunk

end LabelRaster.Png

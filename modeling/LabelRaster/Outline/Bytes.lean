/-!
# Numbers in a font file

A font file holds its numbers with the most significant byte first. A number that
is not completely inside the file is not there.
-/

namespace LabelRaster.Outline

/-- The bytes of a font file or of a part of one. -/
abbrev Bytes := Array UInt8

namespace Bytes

/-- The byte at a place. -/
def u8? (b : Bytes) (i : Nat) : Option Nat := b[i]?.map UInt8.toNat

/-- The two-byte number at a place. -/
def u16? (b : Bytes) (i : Nat) : Option Nat := do
  return (← b.u8? i) * 256 + (← b.u8? (i + 1))

/-- The four-byte number at a place. -/
def u32? (b : Bytes) (i : Nat) : Option Nat := do
  return (← b.u16? i) * 65536 + (← b.u16? (i + 2))

/-- The number below `2 ^ bits` as one of both signs. -/
def signed (bits n : Nat) : Int :=
  if n < Nat.pow 2 (bits - 1) then n else n - Nat.pow 2 bits

/-- The one-byte number of either sign at a place. -/
def i8? (b : Bytes) (i : Nat) : Option Int := (b.u8? i).map (signed 8)

/-- The two-byte number of either sign at a place. -/
def i16? (b : Bytes) (i : Nat) : Option Int := (b.u16? i).map (signed 16)

/-- The `count` two-byte numbers from a place on, if all are there. -/
def u16s? (b : Bytes) (i count : Nat) : Option (List Nat) :=
  (List.range count).mapM fun k => b.u16? (i + 2 * k)

/-- The bytes from one place up to another, if all are there. -/
def part? (b : Bytes) (start stop : Nat) : Option Bytes :=
  if stop ≤ b.size then some (b.extract start stop) else none

end Bytes

end LabelRaster.Outline

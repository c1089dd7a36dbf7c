import LabelRaster.Symbol.Qr.Version

/-!
# Segments of a content

The bytes of a content are cut into segments, each written in the mode that
suits its characters. `Segment.cut` makes a first cut wherever the mode changes;
neighbours are then merged where one longer segment takes no more bits than two
(`Segment.merge`). How many bits a segment takes depends on the version, through
the width of its length field, which is the same for versions up to 9, 10 to 26
and above.

Two bytes that form a double-byte character are written in kanji mode. Its first
byte is a lead; which second bytes it takes depends on the lead.
-/

namespace LabelRaster.Symbol.Qr

/-- How a segment writes its bytes. -/
inductive Mode where
  | numeric
  | alphanumeric
  | byte
  | kanji
deriving DecidableEq, Repr, Inhabited

namespace Mode

/-- The four bits that announce a mode. -/
def indicator : Mode → Nat
  | numeric => 1
  | alphanumeric => 2
  | byte => 4
  | kanji => 8

/-- The width of a segment's length field. -/
def lengthBits (v : Version) (m : Mode) : Nat :=
  if v.number ≤ 9 then
    match m with | numeric => 10 | alphanumeric => 9 | byte => 8 | kanji => 8
  else if v.number ≤ 26 then
    match m with | numeric => 12 | alphanumeric => 11 | byte => 16 | kanji => 10
  else
    match m with | numeric => 14 | alphanumeric => 13 | byte => 16 | kanji => 12

/-- The bits that `n` bytes take. -/
def dataBits (m : Mode) (n : Nat) : Nat :=
  match m with
  | numeric => (10 * n + 2) / 3
  | alphanumeric => (11 * n + 1) / 2
  | byte => 8 * n
  | kanji => 13 * (n / 2)

/-- The least mode that can write what either of two can. -/
def join : Mode → Mode → Mode
  | numeric, numeric => numeric
  | numeric, alphanumeric | alphanumeric, numeric | alphanumeric, alphanumeric => alphanumeric
  | kanji, kanji => kanji
  | _, _ => byte

end Mode

/-- What a byte can be part of. -/
inductive ByteClass where
  /-- A sign of the alphanumeric mode. -/
  | sign
  | digit
  | letter
  /-- A lead, or the second byte of any double-byte character. -/
  | lowLead
  /-- A lead, or the second byte of a double-byte character before the last row. -/
  | highLead
  /-- The lead of the last row, or the second byte of a double-byte character before it. -/
  | lastLead
  /-- The second byte of any double-byte character. -/
  | lowTrail
  /-- The second byte of a double-byte character before the last row. -/
  | highTrail
  | other
deriving DecidableEq, Repr, Inhabited

namespace ByteClass

/-- The class of a byte. -/
def ofByte (b : UInt8) : ByteClass :=
  let n := b.toNat
  if n = 0x20 ∨ n = 0x24 ∨ n = 0x25 ∨ n = 0x2a ∨ n = 0x2b ∨ (0x2d ≤ n ∧ n ≤ 0x2f) ∨ n = 0x3a then
    sign
  else if 0x30 ≤ n ∧ n ≤ 0x39 then digit
  else if 0x41 ≤ n ∧ n ≤ 0x5a then letter
  else if 0x81 ≤ n ∧ n ≤ 0x9f then lowLead
  else if 0xe0 ≤ n ∧ n ≤ 0xea then highLead
  else if n = 0xeb then lastLead
  else if n = 0x40 ∨ (0x5b ≤ n ∧ n ≤ 0x7e) ∨ n = 0x80 ∨ (0xa0 ≤ n ∧ n ≤ 0xbf) then lowTrail
  else if (0xc0 ≤ n ∧ n ≤ 0xdf) ∨ (0xec ≤ n ∧ n ≤ 0xfc) then highTrail
  else other

/-- Whether a byte can follow a lead; `last` tells the lead of the last row. -/
def follows (last : Bool) : ByteClass → Bool
  | letter | lowLead | lowTrail => true
  | highLead | lastLead | highTrail => !last
  | sign | digit | other => false

end ByteClass

/-- The bytes from `start` up to `stop`, in one mode. -/
structure Segment where
  mode : Mode
  start : Nat
  stop : Nat
deriving DecidableEq, Repr, Inhabited

/-- How far the cutting has come since the last cut. -/
inductive Progress where
  | nothing
  /-- Bytes of one mode; in kanji mode, whole characters. -/
  | run (mode : Mode)
  /-- Whole characters and then a lead. -/
  | lead (last : Bool)
deriving DecidableEq, Repr, Inhabited

namespace Progress

/-- The progress after a byte that starts something new. -/
def ofClass : ByteClass → Progress
  | .sign | .letter => run .alphanumeric
  | .digit => run .numeric
  | .lowLead | .highLead => lead false
  | .lastLead => lead true
  | .lowTrail | .highTrail | .other => run .byte

/-- Whether a byte belongs to the bytes since the last cut. -/
def continues (p : Progress) (c : ByteClass) : Bool :=
  match p with
  | nothing => true
  | run .kanji => match ofClass c with | lead _ => true | _ => false
  | run m => ofClass c == run m
  | lead last => c.follows last

/-- The progress after a further byte. -/
def next (p : Progress) (c : ByteClass) : Progress :=
  match p with
  | lead last => if c.follows last then run .kanji else ofClass c
  | _ => ofClass c

end Progress

namespace Segment

/-- The number of bytes. -/
def length (s : Segment) : Nat := s.stop - s.start

/-- The segments of the bytes since the last cut. A lead that nothing follows is a byte of its
own. -/
def close (p : Progress) (start stop : Nat) : List Segment :=
  match p with
  | .nothing => []
  | .run m => [⟨m, start, stop⟩]
  | .lead _ =>
    if start + 1 = stop then [⟨.byte, start, stop⟩]
    else [⟨.kanji, start, stop - 1⟩, ⟨.byte, stop - 1, stop⟩]

/-- Cuts the bytes from `i` on, given the progress since the last cut at `start`. -/
def cut (p : Progress) (start i : Nat) : List ByteClass → List Segment
  | [] => close p start i
  | c :: cs =>
    if p.continues c then cut (p.next c) start (i + 1) cs
    else close p start i ++ cut (p.next c) i (i + 1) cs

/-- The bits that a segment takes in a symbol of version `v`. -/
def bits (v : Version) (s : Segment) : Nat := 4 + s.mode.lengthBits v + s.mode.dataBits s.length

/-- The segment over two neighbours. -/
def join (s t : Segment) : Segment := ⟨s.mode.join t.mode, s.start, t.stop⟩

/-- The segments after merging, the first of them growing from `s`. -/
def mergeFrom (v : Version) (s : Segment) : List Segment → List Segment
  | [] => [s]
  | t :: ts =>
    if (s.join t).bits v ≤ s.bits v + t.bits v then mergeFrom v (s.join t) ts
    else s :: mergeFrom v t ts

/-- The segments after merging neighbours wherever that costs no bit. -/
def merge (v : Version) : List Segment → List Segment
  | [] => []
  | s :: ss => mergeFrom v s ss

/-- The bits that some segments take. -/
def totalBits (v : Version) (ss : List Segment) : Nat := (ss.map (bits v)).foldr (· + ·) 0

/-- The segments of some bytes, for symbols with the length fields of version `v`. -/
def ofBytes (v : Version) (bytes : List UInt8) : List Segment :=
  merge v (cut .nothing 0 0 (bytes.map ByteClass.ofByte))

end Segment

end LabelRaster.Symbol.Qr

import LabelRaster.Outline.Bytes

/-!
# Font files

A font file is a directory of tables. Of these, `head`, `hhea` and `maxp` must be
there and sound, or the file is no font. From the others come the glyph of a
character (`cmap`), how far a glyph advances the pen (`hmtx`), and where its
outline is (`loca`, `glyf`); a font without one of these lacks what it would say.
-/

namespace LabelRaster.Outline

/-- Characters that follow one another, and how to get from them to their glyphs. -/
structure CharRange where
  first : Nat
  last : Nat
  /-- What is added to a code point or to a listed glyph, modulo `2 ^ 16`. -/
  delta : Nat
  /-- How far after this number itself the glyphs are listed; 0 if they are not. -/
  offset : Nat
deriving Repr

/-- A table of characters. Its ranges should be in order and apart. -/
structure CharTable where
  ranges : Array CharRange
  bytes : Bytes
  /-- Where in the table the offset of the first range is. -/
  offsetsAt : Nat

namespace CharTable

/-- The glyph of a code point in range number `k`. -/
def glyphIn? (t : CharTable) (k : Nat) (r : CharRange) (c : Nat) : Option Nat :=
  if r.offset = 0 then some ((c + r.delta) % 65536)
  else do
    guard (r.offset ≠ 65535)
    let ahead := 2 * (c - r.first)
    guard (ahead < 65536)
    let listed ← t.bytes.u16? ((t.offsetsAt + 2 * k + ahead + r.offset) % 65536)
    guard (listed ≠ 0)
    let glyph := (listed + r.delta) % 65536
    guard (glyph < 32768)
    return glyph

/-- The glyph of a code point, looked for by bisection among the ranges from `start` up to, but not
including, `stop`. -/
def search (t : CharTable) (c start stop : Nat) : Option Nat :=
  if start < stop then
    let k := (start + stop) / 2
    match t.ranges[k]? with
    | none => none
    | some r =>
      if r.last < c then search t c (k + 1) stop
      else if c < r.first then search t c start k
      else t.glyphIn? k r c
  else none
termination_by stop - start

/-- The glyph of a character, if the table has it. -/
def glyph? (t : CharTable) (c : Char) : Option Nat :=
  if c.toNat < 65536 then t.search c.toNat 0 t.ranges.size else none

end CharTable

/-- What a font file says. -/
structure Font where
  /-- How far letters reach above the base line. -/
  ascender : Int
  /-- How far letters reach above the base line at the lower end; usually negative. -/
  descender : Int
  glyphCount : Nat
  /-- The advances of the first glyphs; the last one holds for those that follow. -/
  advances : Array Nat
  /-- The glyphs of characters, if the file tells them. -/
  characters : Option CharTable
  /-- Where each glyph's outline starts; it ends where the next one starts. -/
  locations : Array Nat
  outlines : Bytes

namespace Font

/-- The marks that a font file starts with. -/
def signatures : List Nat := [0x00010000, 0x74727565, 0x4f54544f]

/-- The table with a name; of several the last one. -/
def table? (file : Bytes) (name : String) : Option Bytes := do
  let count ← file.u16? 4
  let record ← (List.range count).reverse.find? fun k =>
    (List.range 4).map (fun i => file.u8? (12 + 16 * k + i)) == name.toList.map (some ·.toNat)
  let start ← file.u32? (12 + 16 * record + 8)
  let length ← file.u32? (12 + 16 * record + 12)
  file.part? start (start + length)

/-- Whether the directory of tables is complete. -/
def hasDirectory (file : Bytes) : Bool :=
  match file.u32? 0, file.u16? 4 with
  | some mark, some count => signatures.contains mark && 12 + 16 * count ≤ file.size
  | _, _ => false

/-- Whether places in the font are written in four bytes, if the table `head` is sound. -/
def longLocations? (head : Bytes) : Option Bool := do
  guard (54 ≤ head.size)
  let unitsPerEm ← head.u16? 18
  guard (16 ≤ unitsPerEm ∧ unitsPerEm ≤ 16384)
  match ← head.u16? 50 with
  | 0 => some false
  | 1 => some true
  | _ => none

/-- The number of glyphs, if the table `maxp` is sound. -/
def glyphCount? (maxp : Bytes) : Option Nat := do
  let version ← maxp.u32? 0
  guard (version = 0x00005000 ∨ version = 0x00010000)
  (← maxp.u16? 4) |> fun n => if n = 0 then none else some n

/-- The advances in the table `hmtx`. -/
def advances? (hmtx : Bytes) (count : Nat) : Option (Array Nat) := do
  guard (4 * count ≤ hmtx.size)
  return (← (List.range count).mapM fun k => hmtx.u16? (4 * k)).toArray

/-- The places in the table `loca`, as far as the table goes. -/
def locationsOf (loca : Bytes) (long : Bool) (glyphCount : Nat) : Array Nat :=
  let entry (k : Nat) : Option Nat :=
    if long then loca.u32? (4 * k) else (loca.u16? (2 * k)).map (2 * ·)
  let available := loca.size / if long then 4 else 2
  ((List.range (min (glyphCount + 1) available)).filterMap entry).toArray

/-- A table of characters in format 4. -/
def charTable? (subtable : Bytes) : Option CharTable := do
  guard ((← subtable.u16? 0) = 4)
  let count := (← subtable.u16? 6) / 2
  guard (0 < count)
  let lasts ← subtable.u16s? 14 count
  let firsts ← subtable.u16s? (16 + 2 * count) count
  let deltas ← subtable.u16s? (16 + 4 * count) count
  let offsetsAt := 16 + 6 * count
  let offsets ← subtable.u16s? offsetsAt count
  let range := fun (first, last) (delta, offset) => CharRange.mk first last delta offset
  let ranges := List.zipWith range (firsts.zip lasts) (deltas.zip offsets)
  return ⟨ranges.toArray, subtable, offsetsAt⟩

/-- The first table of characters for Unicode. -/
def charactersOf? (cmap : Bytes) : Option CharTable := do
  let count ← cmap.u16? 2
  guard (4 + 8 * count ≤ cmap.size)
  (List.range count).findSome? fun k => do
    let platform ← cmap.u16? (4 + 8 * k)
    guard (platform = 0 ∨ platform = 3 ∧ (← cmap.u16? (6 + 8 * k)) = 1)
    charTable? (← cmap.part? (← cmap.u32? (8 + 8 * k)) cmap.size)

/-- The font in a file, if it is one. -/
def ofBytes? (file : Bytes) : Option Font := do
  guard (hasDirectory file)
  let long ← longLocations? (← table? file "head")
  let hhea ← table? file "hhea"
  let ascender ← hhea.i16? 4
  let descender ← hhea.i16? 6
  let advanceCount ← hhea.u16? 34
  let glyphCount ← glyphCount? (← table? file "maxp")
  return {
    ascender
    descender
    glyphCount
    advances := ((table? file "hmtx").bind (advances? · advanceCount)).getD #[]
    characters := (table? file "cmap").bind charactersOf?
    locations := ((table? file "loca").map (locationsOf · long glyphCount)).getD #[]
    outlines := (table? file "glyf").getD #[] }

/-- The glyph of a character; glyph 0 stands for all that are missing. -/
def glyph (font : Font) (c : Char) : Nat := (font.characters.bind (·.glyph? c)).getD 0

/-- How far a glyph advances the pen, in the font's units. -/
def advance (font : Font) (glyph : Nat) : Nat :=
  if glyph < max font.advances.size font.glyphCount then
    (font.advances[glyph]?.or font.advances.back?).getD 0
  else 0

/-- The bytes of a glyph's outline. -/
def outline? (font : Font) (glyph : Nat) : Option Bytes := do
  let start ← font.locations[glyph]?
  let stop ← font.locations[glyph + 1]?
  if start < stop then font.outlines.part? start stop else none

end Font

end LabelRaster.Outline

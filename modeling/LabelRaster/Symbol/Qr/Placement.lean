import LabelRaster.Symbol.Qr.Codeword

/-!
# The layout of a symbol

Every module of a symbol has a `Role`. Some belong to patterns that all symbols
of a version share: three finders with a light margin, two timing lines, the
alignment patterns, one module that is always dark and, from version 7 on, the
version number twice. Fifteen modules, also twice, hold the format: the level
and the mask. The rest carry the codewords, in columns of two from the right,
upward and downward in turn, with the vertical timing line left out.
-/

namespace LabelRaster.Symbol.Qr

/-- What a module is for. -/
inductive Role where
  /-- Part of a pattern. -/
  | fixed (dark : Bool)
  /-- A bit of the format, counted from the least significant. -/
  | format (bit : Nat)
  /-- A bit of a codeword, or none at the very end. -/
  | data
deriving DecidableEq, Repr, Inhabited

/-- The distance of two numbers. -/
def distance (a b : Nat) : Nat := (a - b) + (b - a)

/-- The larger of the distances of two modules along the axes: squares around a module are the
modules at one such distance. -/
def ring (row col r c : Nat) : Nat := max (distance row r) (distance col c)

/-- A finder with its margin, around the module in row `r` and column `c`. -/
def finder? (r c row col : Nat) : Option Bool :=
  let d := ring row col r c
  if d ≤ 4 then some (d != 2 && d != 4) else none

/-- An alignment pattern around the module in row `r` and column `c`. -/
def alignment? (r c row col : Nat) : Option Bool :=
  let d := ring row col r c
  if d ≤ 2 then some (d != 1) else none

/-- The centres of the alignment patterns: all crossings but those at the finders. -/
def alignmentCentres (v : Version) : List (Nat × Nat) :=
  let cs := v.alignmentCentres
  let last := v.side - 7
  (cs.flatMap fun r => cs.map fun c => (r, c)).filter fun p =>
    p ≠ (6, 6) ∧ p ≠ (6, last) ∧ p ≠ (last, 6)

/-- The remainder of a division of polynomials over two elements, `n` digits long, after `steps`
further zeros; `divisor` has `n + 1` digits. -/
def checkDigits (divisor n : Nat) : Nat → Nat → Nat
  | 0, rem => rem
  | steps + 1, rem =>
    let twice := 2 * rem
    checkDigits divisor n steps (if twice.testBit n then twice ^^^ divisor else twice)

/-- The eighteen bits of the version number: six and twelve check digits. -/
def versionBits (v : Version) : Nat :=
  v.number * 4096 + checkDigits 0x1f25 12 12 v.number

/-- The module of a version block in the `long`-th row or column of its six, and in the
`short`-th of its three columns or rows. -/
def versionModule (v : Version) (long short : Nat) : Bool :=
  (versionBits v).testBit (3 * long + short)

/-- The version number, right above the lower finder and left of the right one. -/
def versionNumber? (v : Version) (row col : Nat) : Option Bool :=
  if v.number < 7 then none
  else if row < 6 ∧ v.side ≤ col + 11 ∧ col + 8 < v.side then
    some (versionModule v row (col + 11 - v.side))
  else if col < 6 ∧ v.side ≤ row + 11 ∧ row + 8 < v.side then
    some (versionModule v col (row + 11 - v.side))
  else none

/-- The bit of the format in a module, if it holds one. -/
def formatBit? (side row col : Nat) : Option Nat :=
  if col = 8 then
    if row < 6 then some row
    else if row = 7 then some 6
    else if row = 8 then some 7
    else if side ≤ row + 7 then some (row + 15 - side)
    else none
  else if row = 8 then
    if col < 6 then some (14 - col)
    else if col = 7 then some 8
    else if side ≤ col + 8 then some (side - 1 - col)
    else none
  else none

/-- What a module of a symbol of version `v` is for. -/
def role (v : Version) (centres : List (Nat × Nat)) (row col : Nat) : Role :=
  let far := v.side - 4
  if row = v.side - 8 ∧ col = 8 then .fixed true
  else match formatBit? v.side row col with
    | some bit => .format bit
    | none =>
      match (finder? 3 3 row col).or ((finder? 3 far row col).or (finder? far 3 row col)) with
      | some dark => .fixed dark
      | none =>
        match centres.findSome? fun (r, c) => alignment? r c row col with
        | some dark => .fixed dark
        | none =>
          if row = 6 then .fixed (col % 2 == 0)
          else if col = 6 then .fixed (row % 2 == 0)
          else match versionNumber? v row col with
            | some dark => .fixed dark
            | none => .data

/-- The roles of all modules, row by row. -/
def roles (v : Version) : Array Role :=
  let centres := alignmentCentres v
  Array.ofFn fun i : Fin (v.side * v.side) => role v centres (i / v.side) (i % v.side)

/-- The right column of the `k`-th pair from the right. -/
def pairColumn (side k : Nat) : Nat :=
  let col := side - 1 - 2 * k
  if 6 < col then col else col - 1

/-- The modules, as row and column, in the order in which codewords fill them; those of patterns
and of the format are passed over. -/
def path (side : Nat) : List (Nat × Nat) :=
  (List.range ((side - 1) / 2)).flatMap fun k =>
    (List.range side).flatMap fun i =>
      let row := if k % 2 = 0 then side - 1 - i else i
      [(row, pairColumn side k), (row, pairColumn side k - 1)]

/-- The bits of the codewords at their modules, row by row; modules that no codeword reaches are
light. -/
def placed (side : Nat) (roles : Array Role) (words : List UInt8) : Array Bool :=
  let free := (path side).filterMap fun (row, col) =>
    if roles[row * side + col]? = some .data then some (row * side + col) else none
  let bits := words.flatMap fun w => bitsOf 8 w.toNat
  (free.zip bits).foldl (fun modules (i, bit) => modules.setIfInBounds i bit)
    (Array.replicate (side * side) false)

end LabelRaster.Symbol.Qr

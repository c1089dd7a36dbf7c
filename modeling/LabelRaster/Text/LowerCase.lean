import LabelRaster.Text.CaseTable

/-!
# Lower case

`lower` writes a text in lower case. Each character has its own lower-case form,
with two exceptions: the dotted capital I becomes two characters, and a sigma at
the end of a word has a form of its own.
-/

namespace LabelRaster.Text

/-- Whether a code point lies in one of some ranges. -/
def inRanges (ranges : Array (Nat × Nat)) (n : Nat) : Bool :=
  ranges.any fun (first, last) => first ≤ n && n ≤ last

/-- The lower-case form of a character that has a single one. -/
def lowerChar (c : Char) : Char :=
  let n := c.toNat
  match CaseTable.lowerRuns.find? fun (first, last, step, _) =>
      first ≤ n && n ≤ last && (n - first) % step == 0 with
  | some (_, _, _, offset) => Char.ofNat (n + offset).toNat
  | none => c

/-- Whether the first character that counts is a letter that has case. -/
def meetsCased (cs : List Char) : Bool :=
  match cs.dropWhile fun c => inRanges CaseTable.caseIgnorable c.toNat with
  | c :: _ => inRanges CaseTable.cased c.toNat
  | [] => false

/-- The lower-case form of a character between what comes before, last first, and after it. -/
def lowerAt (before after : List Char) (c : Char) : List Char :=
  if c = 'Σ' then [if meetsCased before && !meetsCased after then 'ς' else 'σ']
  else if c = 'İ' then ['i', '\u0307']
  else [lowerChar c]

/-- The lower-case form of the rest of a text after `before`, given last first. -/
def lowerFrom (before : List Char) : List Char → List Char
  | [] => []
  | c :: r => lowerAt before r c ++ lowerFrom (c :: before) r

/-- A text in lower case. -/
def lower (cs : List Char) : List Char := lowerFrom [] cs

end LabelRaster.Text

import LabelRaster.Symbol.Qr.Placement

/-!
# Masks

Data modules are inverted in one of eight patterns, so that a symbol has few
large areas and few lines that look like a finder. Each masked symbol is given a
penalty, and the first mask with the least penalty is taken.
-/

namespace LabelRaster.Symbol.Qr

/-- Whether a mask inverts a module. -/
def masks (mask row col : Nat) : Bool :=
  match mask with
  | 0 => (row + col) % 2 == 0
  | 1 => row % 2 == 0
  | 2 => col % 3 == 0
  | 3 => (row + col) % 3 == 0
  | 4 => (row / 2 + col / 3) % 2 == 0
  | 5 => row * col % 2 + row * col % 3 == 0
  | 6 => (row * col % 2 + row * col % 3) % 2 == 0
  | _ => ((row + col) % 2 + row * col % 3) % 2 == 0

/-- The two bits that name a level in the format. -/
def Level.indicator : Level → Nat
  | low => 1
  | medium => 0
  | quartile => 3
  | high => 2

/-- The fifteen bits of the format: level, mask and ten check digits, inverted in places so that
they are never all light. -/
def formatBits (level : Level) (mask : Nat) : Nat :=
  let n := 8 * level.indicator + mask
  (n * 1024 + checkDigits 0x537 10 10 n) ^^^ 0x5412

/-- The modules of a masked symbol, row by row. -/
def masked (side : Nat) (roles : Array Role) (data : Array Bool) (level : Level) (mask : Nat) :
    Array Bool :=
  let format := formatBits level mask
  Array.ofFn fun i : Fin (side * side) =>
    match roles.getD i .data with
    | .fixed dark => dark
    | .format bit => format.testBit bit
    | .data => data.getD i false ^^ masks mask (i / side) (i % side)

/-! ## Penalties -/

/-- The lengths of the runs of equal modules of a line, of which `n` modules `b` came before. -/
def runsFrom (b : Bool) (n : Nat) : List Bool → List Nat
  | [] => [n]
  | c :: r => if b = c then runsFrom b (n + 1) r else n :: runsFrom c 1 r

/-- The lengths of the runs of equal modules of a line. -/
def runLengths : List Bool → List Nat
  | [] => []
  | b :: r => runsFrom b 1 r

/-- The penalty for long runs in a line. -/
def runPenalty (line : List Bool) : Nat :=
  ((runLengths line).map fun n => if 5 ≤ n then n - 2 else 0).foldr (· + ·) 0

/-- Whether a line starts with four modules, the profile of a finder and four more, where the four
on one side are light. -/
def startsFinder : List Bool → Bool
  | a :: b :: c :: d :: true :: false :: true :: true :: true :: false :: true :: e :: f :: g :: h :: _ =>
    !(a || b || c || d) || !(e || f || g || h)
  | _ => false

/-- The number of places in a line that look like a finder. -/
def finderCount : List Bool → Nat
  | [] => 0
  | b :: r => (if startsFinder (b :: r) then 1 else 0) + finderCount r

/-- The penalty for profiles of a finder in a line; all is light beyond its ends. -/
def finderPenalty (line : List Bool) : Nat :=
  let margin := List.replicate 4 false
  40 * finderCount (margin ++ line ++ margin)

/-- The number of equal neighbours in two lines that are equal to each other there as well. -/
def squareCount : List Bool → List Bool → Nat
  | a :: b :: r, c :: d :: s =>
    (if a = b ∧ a = c ∧ a = d then 1 else 0) + squareCount (b :: r) (d :: s)
  | _, _ => 0

/-- The number of squares of four equal modules. -/
def squares : List (List Bool) → Nat
  | r :: s :: rest => squareCount r s + squares (s :: rest)
  | _ => 0

/-- The penalty of a symbol whose modules are given row by row. -/
def penalty (side : Nat) (modules : Array Bool) : Nat :=
  let rows := (List.range side).map fun r =>
    (List.range side).map fun c => modules.getD (r * side + c) false
  let cols := (List.range side).map fun c =>
    (List.range side).map fun r => modules.getD (r * side + c) false
  let lines := rows ++ cols
  let dark := modules.foldl (fun n b => n + b.toNat) 0
  (lines.map fun l => runPenalty l + finderPenalty l).foldr (· + ·) 0 + 3 * squares rows +
    distance (200 * dark / (side * side)) 100

/-- The first of some candidates with the least penalty. -/
def least (side : Nat) : List (Array Bool) → Option (Array Bool)
  | [] => none
  | c :: cs => some (cs.foldl keep (penalty side c, c)).2
where
  /-- The better of the best candidate so far and a later one. -/
  keep (best : Nat × Array Bool) (c : Array Bool) : Nat × Array Bool :=
    let p := penalty side c
    if p < best.1 then (p, c) else best

end LabelRaster.Symbol.Qr

/-!
# The shortest decimal of a float

A float is written with the fewest digits that read back as the same float. The
reals that round to it form an interval, whose ends belong to it when the
significand is even. `shortest` goes through the grids of multiples of a power of
ten, from coarse to fine, and takes the first on which one of the two neighbours
of the value lies in the interval: the nearer one if both do.

All of it is exact arithmetic on natural numbers.
-/

namespace LabelRaster.Decimal

/-- A positive value `significand · 2 ^ exponent`. -/
structure Binary where
  significand : Nat
  exponent : Int
  /-- Whether the next smaller float is only half as far away as the next larger one. -/
  narrow : Bool
deriving DecidableEq, Repr

/-- The magnitude of a finite float. -/
def Binary.ofBits (bits : UInt64) : Binary :=
  let n := bits.toNat
  let fraction := n % Nat.pow 2 52
  let power : Nat := n / Nat.pow 2 52 % Nat.pow 2 11
  if power = 0 then ⟨fraction, -1074, false⟩
  else ⟨fraction + Nat.pow 2 52, (power : Int) - 1075, fraction = 0 ∧ 1 < power⟩

/-- Which of two equally near decimals is taken. -/
inductive Tie where
  | toEven
  | upward
deriving DecidableEq, Repr

/-- A value with its interval and a grid of multiples of a power of ten, on one scale of natural
numbers: the value is `centre`, its interval reaches from `low` to `high`, and the grid has a
point at each multiple of `unit`. -/
structure Scale where
  low : Nat
  centre : Nat
  high : Nat
  unit : Nat
deriving Repr

/-- The scale for the grid of the multiples of `10 ^ power`. -/
def Binary.scale (b : Binary) (power : Int) : Scale :=
  let quarter := Nat.pow 2 (b.exponent - 2).toNat * Nat.pow 10 (-power).toNat
  { low := (4 * b.significand - if b.narrow then 1 else 2) * quarter
    centre := 4 * b.significand * quarter
    high := (4 * b.significand + 2) * quarter
    unit := Nat.pow 2 (2 - b.exponent).toNat * Nat.pow 10 power.toNat }

/-- Whether the `n`-th point of the grid reads back as the value. -/
def Scale.covers (s : Scale) (closed : Bool) (n : Nat) : Bool :=
  let p := n * s.unit
  if closed then s.low ≤ p && p ≤ s.high else s.low < p && p < s.high

/-- The point of the grid that is taken for the value, if one reads back. -/
def Scale.nearest? (s : Scale) (closed : Bool) (tie : Tie) : Option Nat :=
  let n := s.centre / s.unit
  match s.covers closed n, s.covers closed (n + 1) with
  | false, false => none
  | true, false => some n
  | false, true => some (n + 1)
  | true, true =>
    let below := s.centre - n * s.unit
    let above := (n + 1) * s.unit - s.centre
    if below < above then some n
    else if above < below then some (n + 1)
    else match tie with
      | .upward => some (n + 1)
      | .toEven => some (if n % 2 = 0 then n else n + 1)

/-- The shortest decimal `n · 10 ^ e` of a positive value, as `(n, e)`. -/
def Binary.shortest (b : Binary) (tie : Tie) : Nat × Int :=
  let closed := b.significand % 2 == 0
  let hit := (List.range 640).findSome? fun (i : Nat) =>
    let power : Int := 309 - i
    ((b.scale power).nearest? closed tie).map fun n => (n, power)
  hit.getD (0, 0)

end LabelRaster.Decimal

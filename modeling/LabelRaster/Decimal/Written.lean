import LabelRaster.Decimal.Numeral
import LabelRaster.Decimal.Shortest

/-!
# Floats as text

Two ways to write a float with its shortest digits. Messages write it
positionally, however long that gets, and a whole number without a fraction
(`plain`). JSON always shows a fraction or an exponent: up to sixteen places
before the point and four zeros after it are written positionally, all else with
a signed exponent (`scientific`).
-/

namespace LabelRaster.Decimal

/-- `n` zeros. -/
def zeros (n : Nat) : List Char := List.replicate n '0'

/-- Digits with a point after the first `point` places; digits that lack on either side are
zeros, and no point is written at the end. -/
def positional (ds : List Char) (point : Int) : List Char :=
  if point ≤ 0 then ['0', '.'] ++ zeros (-point).toNat ++ ds
  else if ds.length ≤ point.toNat then ds ++ zeros (point.toNat - ds.length)
  else ds.take point.toNat ++ '.' :: ds.drop point.toNat

/-- Digits with a point after the first of them, and an exponent with its sign. -/
def withExponent (ds : List Char) (point : Int) : List Char :=
  let mantissa := match ds with
    | [] => []
    | [d] => [d]
    | d :: r => d :: '.' :: r
  let sign := if 0 < point then ['+'] else []
  mantissa ++ 'e' :: sign ++ numeral (point - 1)

/-- The sign of a float. -/
def sign (x : Float) : List Char := if x.toBits.toNat / Nat.pow 2 63 = 1 then ['-'] else []

/-- The shortest digits of a finite float's magnitude, and the place of the point after the first
of them. -/
def magnitude (x : Float) (tie : Tie) : List Char × Int :=
  let b := Binary.ofBits x.toBits
  if b.significand = 0 then (['0'], 1)
  else
    let (n, e) := b.shortest tie
    let ds := digits n
    (ds, ds.length + e)

/-- A float as messages write it. -/
def plain (x : Float) : List Char :=
  if x.isNaN then ['N', 'a', 'N']
  else if x.isInf then sign x ++ ['i', 'n', 'f']
  else
    let (ds, point) := magnitude x .upward
    sign x ++ positional ds point

/-- A finite float as JSON writes it. -/
def scientific (x : Float) : List Char :=
  let (ds, point) := magnitude x .toEven
  sign x ++
    if -5 < point ∧ point ≤ 16 then
      positional ds point ++ if (ds.length : Int) ≤ point then ['.', '0'] else []
    else withExponent ds point

end LabelRaster.Decimal

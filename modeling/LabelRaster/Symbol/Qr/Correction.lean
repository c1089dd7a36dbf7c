import LabelRaster.Symbol.Qr.Version

/-!
# Error correction

Codewords are elements of the field with 256 elements, in which `x⁸` is
`x⁴ + x³ + x² + 1`. The correction codewords of a block are the remainder of its
data, as a polynomial, divided by `(x + 1)(x + 2)(x + 4)⋯`. A symbol's data is
split into blocks of nearly equal length, the shorter ones first, and blocks are
written out in turn, one codeword of each at a time.
-/

namespace LabelRaster.Symbol.Qr

namespace Field

/-- The product with `x`. -/
def double (a : UInt8) : UInt8 := if a < 0x80 then a <<< 1 else (a <<< 1) ^^^ 0x1d

/-- The product of two elements, by the digits of the second from its `n`-th down. -/
def mulFrom (a b : UInt8) : Nat → UInt8
  | 0 => 0
  | n + 1 =>
    let half := double (mulFrom a (b >>> 1) n)
    if b % 2 = 1 then half ^^^ a else half

/-- The product of two elements. -/
def mul (a b : UInt8) : UInt8 := mulFrom a b 8

/-- The powers of `x`. -/
def power : Nat → UInt8
  | 0 => 1
  | n + 1 => double (power n)

end Field

/-- The product of a polynomial, highest coefficient first, and `x + r`. -/
def timesLinear (p : List UInt8) (r : UInt8) : List UInt8 :=
  List.zipWith (· ^^^ ·) (p ++ [0]) (0 :: p.map (Field.mul r))

/-- The divisor of degree `n`, highest coefficient first. -/
def divisor : Nat → List UInt8
  | 0 => [1]
  | n + 1 => timesLinear (divisor n) (Field.power n)

/-- The remainder after one more coefficient of the dividend. -/
def remainderStep (tail : List UInt8) (rem : List UInt8) (a : UInt8) : List UInt8 :=
  match rem with
  | [] => []
  | r :: rs => List.zipWith (fun x d => x ^^^ Field.mul (a ^^^ r) d) (rs ++ [0]) tail

/-- The remainder of `data` followed by as many zeros as `tail` is long, divided by the
polynomial with leading coefficient one and the further coefficients `tail`. -/
def remainder (tail : List UInt8) (data : List UInt8) : List UInt8 :=
  data.foldl (remainderStep tail) (List.replicate tail.length 0)

/-- The blocks of some data: `count` in all, all but the last `long` of them `short` long. -/
def blocks (short long : Nat) : Nat → List UInt8 → List (List UInt8)
  | 0, _ => []
  | count + 1, data =>
    let n := if count < long then short + 1 else short
    data.take n :: blocks short long count (data.drop n)

/-- The first codewords of all blocks, then the second ones, and so on up to the `n`-th. -/
def interleave (bs : List (List UInt8)) (n : Nat) : List UInt8 :=
  (List.range n).flatMap fun i => bs.filterMap fun b => b[i]?

/-- The codewords of a symbol with the data codewords `data`. -/
def allCodewords (v : Version) (level : Level) (data : List UInt8) : List UInt8 :=
  let count := (Version.blockCount level).get v
  let degree := (Version.correctionLength level).get v
  let tail := (divisor degree).drop 1
  let bs := blocks (data.length / count) (data.length % count) count data
  interleave bs (data.length / count + 1) ++ interleave (bs.map (remainder tail)) degree

end LabelRaster.Symbol.Qr

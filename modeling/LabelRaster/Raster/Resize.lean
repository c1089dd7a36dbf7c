import LabelRaster.Raster.Picture

/-!
# Resizing pictures

A picture is resized first along its columns and then along its rows. Each new
pixel is a weighted mean of old ones: the weight falls off evenly with the
distance from the place that corresponds to the new pixel's middle, over the
width of one old pixel or of one new pixel, whichever is wider. All four
channels are treated alike.
-/

namespace LabelRaster

namespace Resize

/-- The weight at a distance, in the units of the wider pixel. -/
def weight (distance : Float32) : Float32 :=
  if distance.abs < 1.0 then 1.0 - distance.abs else 0.0

/-- A float as a place among `old` pixels, from `least` on. -/
def clampTo (least most : Nat) (v : Float32) : Nat :=
  (max (least : Int) (min v.toInt64.toInt (most : Int))).toNat

/-- The old pixels that count for the new pixel `o` on a side that goes from `old` to `new` pixels,
with their shares. -/
def shares (old new o : Nat) : List (Nat × Float32) :=
  let ratio := Float32.ofNat old / Float32.ofNat new
  let reach := if ratio < 1.0 then 1.0 else ratio
  let middle := (Float32.ofNat o + 0.5) * ratio
  let left := clampTo 0 (old - 1) (middle - reach).floor
  let right := clampTo (left + 1) old (middle + reach).ceil
  let weights := (List.range (right - left)).map fun k =>
    (left + k, weight ((Float32.ofNat (left + k) - (middle - 0.5)) / reach))
  let total := weights.foldl (fun t (_, w) => t + w) 0.0
  weights.map fun (i, w) => (i, w / total)

/-- The shares of all new pixels of a side. -/
def allShares (old new : Nat) : Array (List (Nat × Float32)) :=
  Array.ofFn fun o : Fin new => shares old new o

/-- The mean of old values with their shares. -/
def mean (shares : List (Nat × Float32)) (value : Nat → Float32) : Float32 :=
  shares.foldl (fun t (i, share) => t + value i * share) 0.0

/-- One of the four channels of a colour. -/
def channel (c : Color) (n : Nat) : Float32 :=
  Float32.ofNat (match n with
    | 0 => c.red
    | 1 => c.green
    | 2 => c.blue
    | _ => c.alpha).toNat

/-- A channel as the nearest byte. -/
def toByte (v : Float32) : UInt8 :=
  (if v < 0.0 then 0.0 else if 255.0 < v then 255.0 else v).round.toUInt8

/-- The channels of a picture that is resized along its columns, row by row. -/
def alongColumns (p : Picture) (height : Nat) : Array Float32 :=
  let shares := allShares p.height height
  Array.ofFn fun i : Fin (height * (4 * p.width)) =>
    let x := i % (4 * p.width) / 4
    mean (shares.getD (i / (4 * p.width)) []) fun y =>
      channel (p.pixels.getD (y * p.width + x) .clear) (i % 4)

end Resize

namespace Picture

/-- The picture in another size. -/
def resize (p : Picture) (width height : Nat) : Picture :=
  if p.width = width ∧ p.height = height then p
  else
    let tall := Resize.alongColumns p height
    let shares := Resize.allShares p.width width
    tabulate width height fun x y =>
      let value (n : Nat) : UInt8 := Resize.toByte (Resize.mean (shares.getD x []) fun i =>
        tall.getD (4 * (y * p.width + i) + n) 0.0)
      ⟨value 0, value 1, value 2, value 3⟩

end Picture

end LabelRaster

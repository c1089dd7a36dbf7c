import LabelRaster.Text.Blank
import LabelRaster.Text.LowerCase

/-!
# Units of length

A label's size is given in millimetres, centimetres, inches or dots. Lengths are
converted without rounding; a dot is its own unit at every density.
-/

namespace LabelRaster

/-- A unit of length. -/
inductive LengthUnit where
  | millimeter
  | centimeter
  | inch
  | dots
deriving DecidableEq, Repr, Inhabited

namespace LengthUnit

/-- The full name. -/
def name : LengthUnit → String
  | millimeter => "millimeter"
  | centimeter => "centimeter"
  | inch => "inch"
  | dots => "dots"

/-- The abbreviation. -/
def abbreviation : LengthUnit → String
  | millimeter => "mm"
  | centimeter => "cm"
  | inch => "in"
  | dots => "dots"

/-- The dots in one unit, at `dpi` dots an inch. -/
def dotsPerUnit (u : LengthUnit) (dpi : Float) : Float :=
  match u with
  | millimeter => dpi / 25.4
  | centimeter => dpi / 2.54
  | inch => dpi
  | dots => 1.0

/-- A length in `u`, in dots. -/
def toDots (u : LengthUnit) (length dpi : Float) : Float :=
  match u with
  | dots => length
  | u => length * u.dotsPerUnit dpi

/-- A length in dots, in `u`. -/
def ofDots (u : LengthUnit) (length dpi : Float) : Float :=
  match u with
  | dots => length
  | u => length / u.dotsPerUnit dpi

/-- The unit that a text names, in any case and between blanks. -/
def ofText? (s : String) : Option LengthUnit :=
  match String.ofList (Text.lower (Text.trim s.toList)) with
  | "mm" | "millimeter" | "millimeters" => some millimeter
  | "cm" | "centimeter" | "centimeters" => some centimeter
  | "in" | "inch" | "inches" => some inch
  | "dots" | "dot" => some dots
  | _ => none

end LengthUnit

end LabelRaster

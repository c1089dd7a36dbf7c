import LabelRaster.Text.Blank
import LabelRaster.Text.LowerCase
import LabelRaster.Decimal.Leading

/-!
# Print densities

Printers come in four densities, known by their dots an inch or, rounded, a
millimetre.

* `ofDpi?_dpi`: the dots an inch determine the density.
-/

namespace LabelRaster

/-- A print density. -/
inductive Density where
  | dpi152
  | dpi203
  | dpi300
  | dpi600
deriving DecidableEq, Repr, Inhabited

namespace Density

/-- All densities, from coarse to fine. -/
def all : List Density := [dpi152, dpi203, dpi300, dpi600]

/-- The dots in an inch. -/
def dpi : Density → Nat
  | dpi152 => 152
  | dpi203 => 203
  | dpi300 => 300
  | dpi600 => 600

/-- The dots in a millimetre, rounded. -/
def dotsPerMm : Density → Nat
  | dpi152 => 6
  | dpi203 => 8
  | dpi300 => 12
  | dpi600 => 24

/-- The density with a number of dots an inch. -/
def ofDpi? (n : Nat) : Option Density := all.find? fun d => d.dpi == n

/-- The density with a number of dots a millimetre. -/
def ofDotsPerMm? (n : Nat) : Option Density := all.find? fun d => d.dotsPerMm == n

theorem ofDpi?_dpi (d : Density) : ofDpi? d.dpi = some d := by cases d <;> rfl

/-- A density as it is shown. -/
def text (d : Density) : String :=
  toString d.dpi ++ " dpi (" ++ toString d.dotsPerMm ++ " dpmm)"

end Density

/-- Why a text or a number names no density. -/
inductive Density.Error where
  /-- The text, in lower case, is no number with a known unit. -/
  | invalid (text : String)
  /-- No printer has this number of dots an inch. -/
  | unsupported (dpi : Nat)
deriving DecidableEq, Repr

namespace Density

/-- The wording of an error. -/
def Error.message : Error → String
  | invalid text => "Invalid density: " ++ text
  | unsupported dpi => "Unsupported density: " ++ toString dpi ++ " dpi"

/-- The density with a number of dots an inch, or why there is none. -/
def ofDpi (n : Nat) : Except Error Density :=
  match ofDpi? n with
  | some d => .ok d
  | none => .error (.unsupported n)

/-- The largest number that a text can give. -/
def greatestNumber : Nat := 4294967295

/-- The number that a text writes: digits after an optional plus. -/
def number? (cs : List Char) : Option Nat :=
  let ds := match cs with
    | '+' :: r => r
    | cs => cs
  if ds.isEmpty ∨ !ds.all Char.isDigit ∨ greatestNumber < Decimal.cappedValue (greatestNumber + 1) ds
  then none
  else some (Decimal.value ds)

/-- What precedes `ending` in a text that ends with it. -/
def before? (ending cs : List Char) : Option (List Char) :=
  if ending.isSuffixOf cs then some (cs.take (cs.length - ending.length)) else none

/-- The density that a text names: dots a millimetre with `dpmm`, or dots an inch with `dpi` or
no unit. -/
def ofText (s : String) : Except Error Density :=
  let cs := Text.lower (Text.trim s.toList)
  let invalid : Except Error Density := .error (.invalid (String.ofList cs))
  match before? ['d', 'p', 'm', 'm'] cs with
  | some n => match (number? (Text.trim n)).bind ofDotsPerMm? with
    | some d => .ok d
    | none => invalid
  | none => match number? (Text.trim ((before? ['d', 'p', 'i'] cs).getD cs)) with
    | some n => ofDpi n
    | none => invalid

end Density

end LabelRaster

import LabelRaster.Json.Reader
import LabelRaster.Json.Value
import LabelRaster.Settings.Basic

/-!
# Settings as JSON

Settings are read from an object whose members may be missing and may stand in
any order, or from an array that gives them in the order of the object's printed
form and may end early. What is missing has its default. `Settings.toJson` writes
them all.
-/

namespace LabelRaster

/-- The largest number of dots or pixels that a text can give. -/
def greatestCount : Nat := 4294967295

namespace Density

/-- A density, as its dots an inch. -/
def read : Json.Reader Density := do
  match Density.ofDpi (← Json.natural greatestCount "u32") with
  | .ok d => return d
  | .error e => Json.mismatch (.refused (Settings.Error.density e).message)

end Density

namespace LengthUnit

/-- The names by which a text can give a unit. -/
def knownNames : List String :=
  ["millimeter", "mm", "centimeter", "cm", "in", "inch", "inches", "dots"]

/-- The unit of a known name. -/
def ofKnownName? : String → Option LengthUnit
  | "millimeter" | "mm" => some millimeter
  | "centimeter" | "cm" => some centimeter
  | "in" | "inch" | "inches" => some inch
  | "dots" => some dots
  | _ => none

/-- The name of a unit, of which the opening quote is next. -/
def readName : Json.Reader LengthUnit := do
  let s ← Json.string
  match ofKnownName? s with
  | some u => return u
  | none => Json.mismatch (.variant s knownNames)

/-- A unit: its name, or an object whose only member has that name and no value. -/
def read : Json.Reader LengthUnit := do
  match ← Json.peek with
  | '"' => readName
  | '\x7b' =>
    Json.drop
    if (← Json.peek) = '"' then
      let u ← readName
      Json.colon
      Json.null "unit"
      if (← Json.peek) = '\x7d' then do Json.drop; return u else throw .malformed
    else throw .malformed
  | _ => throw .malformed

end LengthUnit

namespace Color

/-- The items of an array after `n` of `left + n`. -/
def readChannels (n : Nat) : Nat → Json.Reader (List UInt8)
  | 0 => return []
  | left + 1 => do
    if ← Json.moreItems (n == 0) then
      let c ← Json.natural 255 "u8"
      return c.toUInt8 :: (← readChannels (n + 1) left)
    else Json.mismatch (.length n "an array of length 4")

/-- A colour, as an array of its four channels. -/
def read : Json.Reader Color := do
  match ← Json.peek with
  | '[' =>
    Json.drop
    let cs ← readChannels 0 4
    Json.endArray
    return ⟨cs.getD 0 0, cs.getD 1 0, cs.getD 2 0, cs.getD 3 0⟩
  | _ => Json.unexpected "an array of length 4"

end Color

namespace Settings

/-- The settings that a text has given so far. -/
structure Given where
  density : Option Density
  unit : Option LengthUnit
  labelWidth : Option (Option Float)
  labelHeight : Option (Option Float)
  maxWidth : Option Nat
  maxHeight : Option Nat
  centred : Option Bool
  background : Option Color

/-- No settings at all. -/
def Given.nothing : Given := ⟨none, none, none, none, none, none, none, none⟩

/-- The given settings, with defaults for the rest. -/
def Given.complete (g : Given) : Settings where
  density := g.density.getD default.density
  unit := g.unit.getD default.unit
  labelWidth := g.labelWidth.getD default.labelWidth
  labelHeight := g.labelHeight.getD default.labelHeight
  maxWidth := g.maxWidth.getD default.maxWidth
  maxHeight := g.maxHeight.getD default.maxHeight
  centred := g.centred.getD default.centred
  background := g.background.getD default.background

/-- A side of the label: a number or nothing. -/
def readSide : Json.Reader (Option Float) := Json.nullable (Json.float "f64")

/-- A number of pixels. -/
def readCount : Json.Reader Nat := Json.natural greatestCount "u32"

/-- One setting: its name, whether it is given, and its reader. -/
structure Field where
  name : String
  isGiven : Given → Bool
  read : Given → Json.Reader Given

/-- All settings, in the order of the printed form. -/
def fields : List Field :=
  [⟨"density", fun g => g.density.isSome,
      fun g => do return { g with density := some (← Density.read) }⟩,
    ⟨"unit", fun g => g.unit.isSome,
      fun g => do return { g with unit := some (← LengthUnit.read) }⟩,
    ⟨"label_width", fun g => g.labelWidth.isSome,
      fun g => do return { g with labelWidth := some (← readSide) }⟩,
    ⟨"label_height", fun g => g.labelHeight.isSome,
      fun g => do return { g with labelHeight := some (← readSide) }⟩,
    ⟨"max_preview_width", fun g => g.maxWidth.isSome,
      fun g => do return { g with maxWidth := some (← readCount) }⟩,
    ⟨"max_preview_height", fun g => g.maxHeight.isSome,
      fun g => do return { g with maxHeight := some (← readCount) }⟩,
    ⟨"center_content", fun g => g.centred.isSome,
      fun g => do return { g with centred := some (← Json.bool "a boolean") }⟩,
    ⟨"background", fun g => g.background.isSome,
      fun g => do return { g with background := some (← Color.read) }⟩]

/-- Takes one member of an object. A setting may be given once; other members are passed over. -/
def readMember (g : Given) (name : String) : Json.Reader Given :=
  match fields.find? fun f => f.name == name with
  | some f =>
    if f.isGiven g then Json.mismatch (.duplicate name)
    else do
      Json.colon
      f.read g
  | none => do
    Json.colon
    Json.skip
    return g

/-- Takes the items of an array that give the settings `fs` in turn. -/
def readItems (first : Bool) (g : Given) : List Field → Json.Reader Given
  | [] => return g
  | f :: fs => do
    if ← Json.moreItems first then readItems false (← f.read g) fs else return g

/-- Settings, as an object or an array. -/
def read : Json.Reader Given := do
  match ← Json.peek with
  | '\x7b' => do Json.drop; Json.object readMember .nothing
  | '[' => do
    Json.drop
    let g ← readItems true .nothing fields
    Json.endArray
    return g
  | _ => Json.unexpected "struct PreviewConfig"

/-- Why a text gives no settings. -/
inductive LoadError where
  | json (fault : Json.Fault)
  | settings (error : Error)

/-- The settings that a text gives. -/
def ofText (s : String) : Except LoadError Settings :=
  match Json.parse read s with
  | .error f => .error (.json f)
  | .ok g =>
    match g.complete.validate with
    | .error e => .error (.settings e)
    | .ok () => .ok g.complete

/-- A side of the label as JSON; what is no number is written as null. -/
def sideJson : Option Float → Json.Value
  | some x => if x.isFinite then .number (Decimal.scientific x) else .null
  | none => .null

/-- The members of the printed form. -/
def toMembers (s : Settings) : List (String × Json.Value) :=
  [("density", .int s.density.dpi), ("unit", .string s.unit.name),
    ("label_width", sideJson s.labelWidth), ("label_height", sideJson s.labelHeight),
    ("max_preview_width", .int s.maxWidth), ("max_preview_height", .int s.maxHeight),
    ("center_content", .bool s.centred),
    ("background", .array (s.background.bytes.map fun b => .int b.toNat))]

/-- The settings as a JSON value. -/
def toJson (s : Settings) : Json.Value := .object s.toMembers

/-- The settings as a JSON text on one line. -/
def toText (s : Settings) : String := s.toJson.toText Json.compact

end Settings

end LabelRaster

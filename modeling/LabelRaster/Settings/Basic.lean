import LabelRaster.Decimal.Written
import LabelRaster.Label.Size
import LabelRaster.Raster.Color
import LabelRaster.Settings.Density
import LabelRaster.Settings.Unit

/-!
# Settings

What a host chooses for rendering a label: the density of the printer, the
label's physical size, the largest size it is shown in, whether its content is
centred, and the background. A label size that is not chosen follows from the
label itself.

* `validate_eq_ok_iff`: what makes settings unusable.
-/

namespace LabelRaster

/-- What a host chooses for rendering a label. -/
structure Settings where
  density : Density
  /-- The unit of the label's size. -/
  unit : LengthUnit
  labelWidth : Option Float
  labelHeight : Option Float
  /-- The largest width that the label is shown in, in pixels. -/
  maxWidth : Nat
  /-- The largest height that the label is shown in, in pixels. -/
  maxHeight : Nat
  /-- Whether content narrower than the label is centred. -/
  centred : Bool
  background : Color

namespace Settings

/-- The settings that hold where nothing else is chosen. -/
def default : Settings where
  density := .dpi203
  unit := .millimeter
  labelWidth := none
  labelHeight := none
  maxWidth := 600
  maxHeight := 900
  centred := true
  background := .white

instance : Inhabited Settings := ⟨default⟩

/-- Why settings cannot be used. -/
inductive Error where
  /-- The label would be shown in no size at all. -/
  | emptyDisplay (width height : Nat)
  /-- The label's width is negative or no number. -/
  | labelWidth (value : Float)
  /-- The label's height is negative or no number. -/
  | labelHeight (value : Float)
  /-- A text names no unit. -/
  | unknownUnit (text : String)
  /-- A text or a number names no density. -/
  | density (error : Density.Error)

/-- The wording of an error. -/
def Error.message (e : Error) : String :=
  "Invalid configuration: " ++ match e with
    | emptyDisplay width height =>
      "Preview bounds must be positive, got " ++ toString width ++ "x" ++ toString height
    | labelWidth value => "Invalid label_width: " ++ String.ofList (Decimal.plain value)
    | labelHeight value => "Invalid label_height: " ++ String.ofList (Decimal.plain value)
    | unknownUnit text => "Unknown unit: " ++ text
    | density error => error.message

/-- The unit that a text names, or why there is none. -/
def readUnit (s : String) : Except Error LengthUnit :=
  match LengthUnit.ofText? s with
  | some u => .ok u
  | none => .error (.unknownUnit s)

/-- Whether a value can be a label's side. -/
def isLength (x : Float) : Bool := x.isFinite && !(x < 0.0)

/-- Refuses settings that no label can be rendered with. -/
def validate (s : Settings) : Except Error Unit :=
  if s.maxWidth = 0 ∨ s.maxHeight = 0 then .error (.emptyDisplay s.maxWidth s.maxHeight)
  else match s.labelWidth.filter fun x => !isLength x with
    | some x => .error (.labelWidth x)
    | none => match s.labelHeight.filter fun x => !isLength x with
      | some x => .error (.labelHeight x)
      | none => .ok ()

/-- Settings are accepted with a greatest size, and with lengths that a label can have. -/
theorem validate_eq_ok_iff {s : Settings} :
    s.validate = .ok () ↔ s.maxWidth ≠ 0 ∧ s.maxHeight ≠ 0 ∧
      (∀ x ∈ s.labelWidth, isLength x = true) ∧ ∀ x ∈ s.labelHeight, isLength x = true := by
  rcases s with ⟨d, u, w, h, mw, mh, c, b⟩
  simp only [validate]
  split
  · rename_i h0
    simp; omega
  · rename_i h0
    rw [not_or] at h0
    rcases w with _ | x <;> rcases h with _ | y
    · simp [h0]
    · cases hy : isLength y <;> simp [h0, hy, Option.filter]
    · cases hx : isLength x <;> simp [h0, hx, Option.filter]
    · cases hx : isLength x <;> cases hy : isLength y <;> simp [h0, hx, hy, Option.filter]

/-- The density as a float. -/
def dpi (s : Settings) : Float := Float.ofNat s.density.dpi

/-- The size of a label in dots, not rounded: a side that is chosen, else what follows from the
label. -/
def logicalSize (s : Settings) (generator : Symbol.Generator) (d : Document) : Float × Float :=
  let chosen (side : Option Float) : Option Float := side.map fun x => s.unit.toDots x s.dpi
  match chosen s.labelWidth, chosen s.labelHeight with
  | some width, some height => (width, height)
  | width, height =>
    let size := d.size generator
    (width.getD (Float.ofNat size.width), height.getD (Float.ofNat size.height))

/-- The settings with the label's size taken from a label, in the unit in force. A label without
area changes nothing. -/
def adopt (s : Settings) (generator : Symbol.Generator) (d : Document) : Settings :=
  let size := d.size generator
  if 0 < size.width ∧ 0 < size.height then
    { s with
      labelWidth := some (s.unit.ofDots (Float.ofNat size.width) s.dpi)
      labelHeight := some (s.unit.ofDots (Float.ofNat size.height) s.dpi) }
  else s

/-- The settings in another unit, with the label's size converted. -/
def withUnit (s : Settings) (unit : LengthUnit) : Settings :=
  let convert (x : Float) : Float := unit.ofDots (s.unit.toDots x s.dpi) s.dpi
  { s with
    unit
    labelWidth := s.labelWidth.map convert
    labelHeight := s.labelHeight.map convert }

/-- The settings at another density; the label's physical size stays. -/
def withDensity (s : Settings) (density : Density) : Settings := { s with density }

end Settings

end LabelRaster

import LabelRaster.Command.Basic
import LabelRaster.Decimal.Numeral
import LabelRaster.Label.Element

/-!
# Writing a label

A document is written as a label text: the opening mark, the declared width, the
commands of each element, and the closing mark. Each element brings its own
position and settings, so that it does not depend on the elements before it. The
bytes of pictures are left out, and so is the side of a matrix symbol that is
given as a whole: no command can tell them.
-/

namespace LabelRaster

namespace Command

/-- A command as it is written. -/
def script (c : Command) : List Char := caret :: (c.code ++ c.arg).toList

/-- A command with a list of parameters. -/
def ofParams (code : String) (params : List (List Char)) : Command :=
  ⟨code, String.ofList (List.intercalate [','] params)⟩

end Command

/-- The letter that stands for an orientation. -/
def Orientation.letter : Orientation → Char
  | normal => 'N'
  | rotated => 'R'
  | inverted => 'I'
  | bottomUp => 'B'

/-- Every orientation is read back from its letter. -/
theorem Orientation.ofLetter?_letter (o : Orientation) : ofLetter? o.letter = some o := by
  cases o <;> rfl

namespace Element

/-- The command that places an element. -/
def placing (e : Element) : Command :=
  .ofParams "FO" [Decimal.numeral e.origin.x, Decimal.numeral e.origin.y]

/-- The number of bytes in a row of a picture: eight dots to a byte. -/
def bytesPerRow (f : PictureField) : Int := f.width / 8

/-- The commands that describe an element, between the one that places it and the one that ends
it. -/
def description : Element → List Command
  | text f =>
    [.ofParams "A@" [[f.orientation.letter], Decimal.numeral f.height], ⟨"FD", f.content⟩]
  | box f =>
    [.ofParams "GB" [Decimal.numeral f.width, Decimal.numeral f.height,
      Decimal.numeral f.thickness]]
  | bars f =>
    [.ofParams "BY" [Decimal.numeral f.moduleWidth],
      .ofParams "BC" [['N'], Decimal.numeral f.height], ⟨"FD", f.content⟩]
  | matrix f =>
    [.ofParams "BQ" [['N'], ['2'], Decimal.numeral f.dotSize], ⟨"FD", "LA," ++ f.content⟩]
  | picture f =>
    let total := Decimal.numeral (bytesPerRow f * f.height)
    [.ofParams "GF" [['A'], total, total, Decimal.numeral (bytesPerRow f)]]

/-- The commands of an element. -/
def commands (e : Element) : List Command := e.placing :: e.description ++ [⟨"FS", ""⟩]

end Element

namespace Document

/-- The commands of a document. -/
def commands (d : Document) : List Command :=
  (d.labelWidth.map fun w => Command.ofParams "PW" [Decimal.numeral w]).toList ++
    d.elements.flatMap Element.commands

/-- A document as a label text. -/
def script (d : Document) : String :=
  String.ofList (Command.opening ++ d.commands.flatMap Command.script ++ Command.closing)

end Document

end LabelRaster

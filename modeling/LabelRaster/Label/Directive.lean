import LabelRaster.Command.Basic
import LabelRaster.Command.Params
import LabelRaster.Label.Element

/-!
# Directives

What a command asks for, with its parameters read and the defaults filled in.
Each supported code has its directive; every code that starts with `A` chooses a
font; all others are `ignored`. A size that is missing, zero or negative leaves
the size in force as it is, so it is read as absent.
-/

namespace LabelRaster

/-- The size in the header of a picture. -/
structure PictureHeader where
  totalBytes : Int
  bytesPerRow : Int
deriving DecidableEq, Repr, Inhabited

namespace PictureHeader

/-- The side of a picture whose header does not tell it. -/
def defaultSide : Int := 80

/-- The width in dots: eight to a byte. -/
def width (h : PictureHeader) : Int :=
  if 0 < h.bytesPerRow then Dot.clamp (8 * h.bytesPerRow) else defaultSide

/-- The number of rows that hold all the bytes. -/
def height (h : PictureHeader) : Int :=
  if 0 < h.bytesPerRow ∧ 0 < h.totalBytes then
    (h.totalBytes + h.bytesPerRow - 1) / h.bytesPerRow
  else defaultSide

end PictureHeader

/-- What a command asks for. -/
inductive Directive where
  /-- Moves the position that later origins count from. -/
  | labelHome (home : Point)
  /-- Places the next field, counting from the label's home. -/
  | fieldOrigin (origin : Point)
  /-- Declares the width of the label. -/
  | labelWidth (width : Option Nat)
  /-- Turns later texts and sets their height. -/
  | font (orientation : Orientation) (height : Option Nat)
  /-- Sets the height of later texts. -/
  | fontHeight (height : Option Nat)
  /-- Sets the module width and the height of later barcodes. -/
  | barDefaults (moduleWidth : Option Nat) (height : Option Nat)
  /-- Makes the next field a barcode. -/
  | bars (orientation : Option Orientation) (height : Option Nat)
  /-- Makes the next field a matrix symbol. -/
  | matrix (magnification : Option Nat)
  /-- Places a box at once. -/
  | box (width height thickness : Int)
  /-- Places a picture at once. -/
  | picture (header : PictureHeader)
  /-- Gives the data of the field. -/
  | data (content : String)
  /-- Ends the field. -/
  | separator
  /-- Asks for nothing that a label shows. -/
  | ignored
deriving DecidableEq, Repr, Inhabited

namespace Directive

/-- An integer that is a size: positive. -/
def size? (v : Option Int) : Option Nat := (v.filter (0 < ·)).map Int.toNat

/-- The orientation that a parameter starts with. -/
def orientation? (p : Params) (i : Nat) : Option Orientation :=
  (p.letter? i).bind Orientation.ofLetter?

/-- The two integers that a position is written as; one that is missing is zero. -/
def point (p : Params) : Point := ⟨(p.int? 0).getD 0, (p.int? 1).getD 0⟩

/-- What `c` asks for. -/
def ofCommand (c : Command) : Directive :=
  let p := Params.ofText c.arg
  match c.code with
  | "LH" => labelHome (point p)
  | "FO" => fieldOrigin (point p)
  | "PW" => labelWidth (size? (p.int? 0))
  | "CF" => fontHeight (size? (p.int? 1))
  | "BY" => barDefaults (size? (p.int? 0)) (size? (p.firstInt? [2, 1]))
  | "BC" => bars (orientation? p 0) (size? (p.int? 1))
  | "BQ" => matrix (size? (p.firstInt? [2, 1]))
  | "GB" => box ((p.int? 0).getD 0) ((p.int? 1).getD 0) ((p.int? 2).getD 1)
  | "GF" => picture ⟨(p.firstInt? [1, 2]).getD 0, (p.int? 3).getD 0⟩
  | "FD" => data c.arg
  | "FS" => separator
  | code =>
    if code.toList.head? = some 'A' then font ((orientation? p 0).getD .normal) (size? (p.int? 1))
    else ignored

end Directive

end LabelRaster

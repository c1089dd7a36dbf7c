import LabelRaster.Raster.Rect

/-!
# The elements of a label

What a label shows is a list of elements, painted in order: text, boxes, linear
barcodes, matrix symbols and pictures. Positions are in printer dots, with the
label's home position already added.
-/

namespace LabelRaster

/-- How the reading direction of a text is turned around its origin. -/
inductive Orientation where
  | normal
  | rotated
  | inverted
  | bottomUp
deriving DecidableEq, Repr, Inhabited

namespace Orientation

/-- The orientation that a letter stands for, in either case. -/
def ofLetter? : Char → Option Orientation
  | 'N' | 'n' => some normal
  | 'R' | 'r' => some rotated
  | 'I' | 'i' => some inverted
  | 'B' | 'b' => some bottomUp
  | _ => none

/-- The turn in degrees, clockwise. -/
def degrees : Orientation → Int
  | normal => 0
  | rotated => -90
  | inverted => 180
  | bottomUp => 90

/-- The name of the orientation in a dump. -/
def name : Orientation → String
  | normal => "normal"
  | rotated => "rotated"
  | inverted => "inverted"
  | bottomUp => "bottom_up"

end Orientation

/-- A line of text. -/
structure TextField where
  origin : Point
  font : String
  /-- The height of a line, in dots. -/
  height : Nat
  orientation : Orientation
  content : String
deriving DecidableEq, Repr, Inhabited

/-- The outline of a box. A side may be negative: the box then lies before its origin. -/
structure BoxField where
  origin : Point
  width : Int
  height : Int
  thickness : Int
deriving DecidableEq, Repr, Inhabited

/-- Whether a box is a single line: exactly one of its sides is zero. -/
def BoxField.isRule (b : BoxField) : Bool := (b.width == 0) != (b.height == 0)

/-- A linear barcode. -/
structure BarField where
  origin : Point
  /-- The height of the bars, in dots. -/
  height : Nat
  /-- The width of the narrowest bar, in dots. -/
  moduleWidth : Nat
  content : String
deriving DecidableEq, Repr, Inhabited

/-- A matrix symbol. -/
structure MatrixField where
  origin : Point
  /-- The side of one module, in dots. -/
  dotSize : Nat
  /-- The side of the whole symbol, where it is given. -/
  side : Option Nat
  content : String
deriving DecidableEq, Repr, Inhabited

/-- The side of the whole symbol, if it is given and not zero. -/
def MatrixField.side? (m : MatrixField) : Option Nat := m.side.filter (0 < ·)

/-- A picture. -/
structure PictureField where
  origin : Point
  width : Int
  height : Int
  /-- Four bytes a pixel, row by row; with no bytes nothing is painted. -/
  data : Array UInt8
deriving DecidableEq, Repr, Inhabited

/-- One thing painted on a label. -/
inductive Element where
  | text (field : TextField)
  | box (field : BoxField)
  | bars (field : BarField)
  | matrix (field : MatrixField)
  | picture (field : PictureField)
deriving DecidableEq, Repr, Inhabited

namespace Element

/-- The position that an element is placed at. -/
def origin : Element → Point
  | text f => f.origin
  | box f => f.origin
  | bars f => f.origin
  | matrix f => f.origin
  | picture f => f.origin

/-- The name of an element's kind in a dump. -/
def kind : Element → String
  | text _ => "text"
  | box _ => "box"
  | bars _ => "barcode"
  | matrix _ => "qrcode"
  | picture _ => "image"

end Element

/-- What a label shows, and the width it declares for itself. -/
structure Document where
  /-- The elements in the order in which they are painted. -/
  elements : List Element
  labelWidth : Option Nat
deriving DecidableEq, Repr, Inhabited

/-- Whether there is nothing to paint. -/
def Document.isEmpty (d : Document) : Bool := d.elements.isEmpty

end LabelRaster

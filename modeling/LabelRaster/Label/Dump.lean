import LabelRaster.Json.Value
import LabelRaster.Label.Element

/-!
# The dump of a document

A document is dumped as pretty JSON: its elements in order, each tagged with its
kind, and the declared width. The bytes of pictures are left out.
-/

namespace LabelRaster

/-- A number of dots that may be missing, as a JSON value. -/
def Json.Value.ofNat? : Option Nat → Json.Value
  | some n => .int n
  | none => .null

/-- The members of an element's dump after its kind and position. -/
def Element.details : Element → List (String × Json.Value)
  | .text f =>
    [("font_name", .string f.font), ("font_size", .int f.height),
      ("rotation", .string f.orientation.name), ("content", .string f.content)]
  | .box f =>
    [("width", .int f.width), ("height", .int f.height), ("border_thickness", .int f.thickness)]
  | .bars f =>
    [("height", .int f.height), ("module_width", .int f.moduleWidth),
      ("content", .string f.content)]
  | .matrix f =>
    [("dot_size", .int f.dotSize), ("size", .ofNat? f.side), ("content", .string f.content)]
  | .picture f => [("width", .int f.width), ("height", .int f.height)]

/-- The dump of one element. -/
def Element.toJson (e : Element) : Json.Value :=
  .object <|
    [("type", .string e.kind), ("x", .int e.origin.x), ("y", .int e.origin.y)] ++ e.details

namespace Document

/-- The dump of a document, as a JSON value. -/
def toJson (d : Document) : Json.Value :=
  .object [("elements", .array (d.elements.map Element.toJson)),
    ("label_width", .ofNat? d.labelWidth)]

/-- The dump of a document. -/
def dump (d : Document) : String := d.toJson.toText Json.pretty

end Document

end LabelRaster

import LabelRaster.Label.Directive
import LabelRaster.Label.Payload

/-!
# From directives to a document

A label is read by applying its directives in turn to a `Layout`: the settings
in force, the kind of field that has been announced and the data it has been
given. Boxes and pictures are placed at once; a separator places the field whose
data has been given, and in any case ends it, so that nothing announced for one
field reaches the next.
-/

namespace LabelRaster

/-- The kind of field that has been announced. -/
inductive Pending where
  | nothing
  | bars
  | matrix
  | picture (header : PictureHeader)
deriving DecidableEq, Repr, Inhabited

/-- The settings in force while a label is read. -/
structure Layout where
  /-- The position that origins count from. -/
  home : Point
  /-- The position of the next element. -/
  cursor : Point
  font : String
  fontHeight : Nat
  orientation : Orientation
  moduleWidth : Nat
  barHeight : Nat
  magnification : Nat
  labelWidth : Option Nat
  pending : Pending
  /-- The data of the field that is being read. -/
  data : Option String
deriving DecidableEq, Repr, Inhabited

namespace Layout

/-- The font of every text. -/
def defaultFont : String := "sans-serif"

/-- The side of a module of a matrix symbol for which none is given. -/
def defaultMagnification : Nat := 4

/-- The settings at the start of a label. -/
def initial : Layout where
  home := ⟨0, 0⟩
  cursor := ⟨0, 0⟩
  font := defaultFont
  fontHeight := 16
  orientation := .normal
  moduleWidth := 2
  barHeight := 80
  magnification := defaultMagnification
  labelWidth := none
  pending := .nothing
  data := none

/-- The element of a field with the data `content`, of the kind that has been announced. -/
def field (s : Layout) (content : String) : Element :=
  match s.pending with
  | .bars => .bars ⟨s.cursor, s.barHeight, s.moduleWidth, content⟩
  | .matrix =>
    .matrix ⟨s.cursor, s.magnification, none, String.ofList (Payload.payload content.toList)⟩
  | .nothing | .picture _ => .text ⟨s.cursor, s.font, s.fontHeight, s.orientation, content⟩

/-- The element that a directive places, if any. -/
def placed (s : Layout) : Directive → Option Element
  | .box width height thickness => some (.box ⟨s.cursor, width, height, thickness⟩)
  | .picture header => some (.picture ⟨s.cursor, header.width, header.height, #[]⟩)
  | .separator => s.data.map s.field
  | _ => none

/-- The settings after a directive. -/
def next (s : Layout) : Directive → Layout
  | .labelHome home => { s with home }
  | .fieldOrigin origin =>
    { s with cursor := ⟨Dot.add origin.x s.home.x, Dot.add origin.y s.home.y⟩ }
  | .labelWidth width => { s with labelWidth := width.or s.labelWidth }
  | .font orientation height =>
    { s with orientation, fontHeight := height.getD s.fontHeight, font := defaultFont }
  | .fontHeight height => { s with fontHeight := height.getD s.fontHeight }
  | .barDefaults moduleWidth height =>
    { s with moduleWidth := moduleWidth.getD s.moduleWidth, barHeight := height.getD s.barHeight }
  | .bars orientation height =>
    { s with
      orientation := orientation.getD s.orientation
      barHeight := height.getD s.barHeight
      pending := .bars }
  | .matrix magnification =>
    { s with magnification := magnification.getD defaultMagnification, pending := .matrix }
  | .picture header => { s with pending := .picture header }
  | .data content => { s with data := some content }
  | .separator => { s with pending := .nothing, data := none }
  | .box _ _ _ | .ignored => s

/-- The settings after some directives, and the elements that they place. -/
def run : Layout → List Directive → Layout × List Element
  | s, [] => (s, [])
  | s, d :: ds =>
    let (last, elements) := run (s.next d) ds
    (last, (s.placed d).toList ++ elements)

@[simp] theorem run_nil (s : Layout) : s.run [] = (s, []) := rfl

theorem run_cons (s : Layout) (d : Directive) (ds : List Directive) :
    s.run (d :: ds) = (((s.next d).run ds).1, (s.placed d).toList ++ ((s.next d).run ds).2) := rfl

/-- A label can be read in two parts, the second from the layout that the first one leaves. -/
theorem run_append (s : Layout) (ds es : List Directive) :
    s.run (ds ++ es) = (((s.run ds).1.run es).1, (s.run ds).2 ++ ((s.run ds).1.run es).2) := by
  induction ds generalizing s with
  | nil => simp
  | cons d ds ih => simp [run_cons, ih]

end Layout

namespace Document

/-- The document that some directives describe. A field without a separator is dropped. -/
def ofDirectives (ds : List Directive) : Document :=
  let (last, elements) := Layout.initial.run ds
  ⟨elements, last.labelWidth⟩

/-- The document that some commands describe. -/
def ofCommands (cs : List Command) : Document := ofDirectives (cs.map Directive.ofCommand)

/-- The document that a label's text describes. -/
def ofText (text : String) : Document := ofCommands (Command.ofText text)

end Document

end LabelRaster

import Mathlib.Data.List.DropRight
import LabelRaster.Label.Layout

/-!
# A label read back from its history

What a command means depends on the commands before it. Here the settings in force, the
field that has been announced and its data are read off those commands directly, without
the layout that carries them along: a setting has the value that was written last
(`last?`), or its default, and a field is made of the commands since the last separator
(`stretch`). `layout_concat` says what one more command does to this reading, and `run_eq`
that the layout reached by any label is the one that its history tells.
-/

namespace LabelRaster

namespace Command

/-- The field at `i` between the commas of the argument, if it is there and not empty. -/
def field? (c : Command) (i : Nat) : Option (List Char) :=
  match (c.arg.toList.splitOn ',')[i]? with
  | some (ch :: chs) => some (ch :: chs)
  | _ => none

/-- The integer in the field at `i`; it is zero if there is none. -/
def int (c : Command) (i : Nat) : Int := ((c.field? i).bind Decimal.leadingInt?).getD 0

/-- The two integers that a position is written as. -/
def point (c : Command) : Point := ⟨c.int 0, c.int 1⟩

/-- The positive integer that a field starts with. -/
def sizeOf? (field : List Char) : Option Nat :=
  match Decimal.leadingInt? field with
  | some n => if 0 < n then some n.toNat else none
  | none => none

/-- The positive integer in the field at `i`. -/
def size? (c : Command) (i : Nat) : Option Nat := (c.field? i).bind sizeOf?

/-- The positive integer in the field at `i` or, if that field is empty, in the one at `j`. -/
def sizeOr? (c : Command) (i j : Nat) : Option Nat :=
  match c.field? i with
  | some field => sizeOf? field
  | none => c.size? j

/-- The orientation that a letter names, in either case. -/
def turnOf? (ch : Char) : Option Orientation :=
  if ch = 'N' ∨ ch = 'n' then some .normal
  else if ch = 'R' ∨ ch = 'r' then some .rotated
  else if ch = 'I' ∨ ch = 'i' then some .inverted
  else if ch = 'B' ∨ ch = 'b' then some .bottomUp
  else none

/-- The orientation that the first field names by the letter that it starts with. -/
def turn? (c : Command) : Option Orientation := ((c.field? 0).bind List.head?).bind turnOf?

/-- Whether the command chooses a font: the second character of its code is the font's name. -/
def IsFont (c : Command) : Prop := c.code.toList.head? = some 'A'

instance (c : Command) : Decidable c.IsFont := inferInstanceAs (Decidable (_ = _))

/-- The header in a picture's command. -/
def header (c : Command) : PictureHeader :=
  ⟨((Params.ofText c.arg).firstInt? [1, 2]).getD 0, c.int 3⟩

/-! The parameters are read as the directives read them. -/

theorem field?_eq (c : Command) (i : Nat) : c.field? i = (Params.ofText c.arg).get? i := by
  simp only [field?, Params.get?, Params.ofText]
  cases (c.arg.toList.splitOn ',')[i]? with
  | none => rfl
  | some field => cases field <;> rfl

theorem int_eq (c : Command) (i : Nat) : c.int i = ((Params.ofText c.arg).int? i).getD 0 := by
  rw [int, field?_eq, Params.int?]

theorem sizeOf?_eq (field : List Char) :
    sizeOf? field = Directive.size? (Decimal.leadingInt? field) := by
  rw [sizeOf?, Directive.size?]
  cases Decimal.leadingInt? field with
  | none => rfl
  | some n => by_cases hn : 0 < n <;> simp [hn, Option.filter_some]

theorem size?_eq (c : Command) (i : Nat) :
    c.size? i = Directive.size? ((Params.ofText c.arg).int? i) := by
  rw [size?, field?_eq, Params.int?]
  cases (Params.ofText c.arg).get? i with
  | none => rfl
  | some field => exact sizeOf?_eq field

theorem sizeOr?_eq (c : Command) (i j : Nat) :
    c.sizeOr? i j = Directive.size? ((Params.ofText c.arg).firstInt? [i, j]) := by
  simp only [sizeOr?, size?_eq, field?_eq, sizeOf?_eq, Params.firstInt?, Params.firstPresent?,
    Params.int?, List.findSome?]
  cases (Params.ofText c.arg).get? i with
  | none => cases (Params.ofText c.arg).get? j <;> rfl
  | some field => rfl

/-- The letters are those of the directives. -/
theorem turnOf?_eq (ch : Char) : turnOf? ch = Orientation.ofLetter? ch := by
  unfold Orientation.ofLetter?
  split
  case h_9 => simp_all [turnOf?]
  all_goals rfl

theorem turn?_eq (c : Command) : c.turn? = Directive.orientation? (Params.ofText c.arg) 0 := by
  rw [turn?, field?_eq, Directive.orientation?, Params.letter?, funext turnOf?_eq]

end Command

namespace History

/-- The last of the values that some commands write. -/
def last? {α : Type} (write : Command → Option α) (past : List Command) : Option α :=
  (past.filterMap write).getLast?

/-- A command that writes a value replaces the one before, any other leaves it. -/
theorem last?_concat {α : Type} (write : Command → Option α) (past : List Command) (c : Command) :
    last? write (past ++ [c]) = (write c).or (last? write past) := by
  simp only [last?, List.filterMap_append, List.getLast?_append]
  cases h : write c <;> simp [h]

theorem last?_getD_concat {α : Type} (write : Command → Option α) (past : List Command)
    (c : Command) (default : α) :
    (last? write (past ++ [c])).getD default =
      (write c).getD ((last? write past).getD default) := by
  rw [last?_concat]
  cases write c <;> rfl

/-! ## Settings -/

/-- The position that origins count from. -/
def home (past : List Command) : Point :=
  (last? (fun c => if c.code = "LH" then some c.point else none) past).getD ⟨0, 0⟩

/-- The commands up to the last field origin. -/
def untilOrigin (past : List Command) : List Command := past.rdropWhile (·.code ≠ "FO")

/-- The position of the next element: that of the last field origin, counted from the home that
was in force there. -/
def cursor (past : List Command) : Point :=
  match (untilOrigin past).getLast? with
  | some origin =>
    let home := home (untilOrigin past).dropLast
    ⟨Dot.add origin.point.x home.x, Dot.add origin.point.y home.y⟩
  | none => ⟨0, 0⟩

/-- The height of a text. -/
def fontHeight (past : List Command) : Nat :=
  (last? (fun c => if c.IsFont ∨ c.code = "CF" then c.size? 1 else none) past).getD 16

/-- The orientation of a text. A font that names none turns the text back, a barcode does not. -/
def orientation (past : List Command) : Orientation :=
  (last? (fun c => if c.IsFont then some (c.turn?.getD .normal)
    else if c.code = "BC" then c.turn? else none) past).getD .normal

/-- The module width of a barcode. -/
def moduleWidth (past : List Command) : Nat :=
  (last? (fun c => if c.code = "BY" then c.size? 0 else none) past).getD 2

/-- The height of a barcode. -/
def barHeight (past : List Command) : Nat :=
  (last? (fun c => if c.code = "BY" then c.sizeOr? 2 1
    else if c.code = "BC" then c.size? 1 else none) past).getD 80

/-- The side of a module of a matrix symbol: only the last symbol's command counts, whether or not
it gives a size. -/
def magnification (past : List Command) : Nat :=
  (last? (fun c => if c.code = "BQ" then some ((c.sizeOr? 2 1).getD 4) else none) past).getD 4

/-- The width that the label declares. -/
def labelWidth (past : List Command) : Option Nat :=
  last? (fun c => if c.code = "PW" then c.size? 0 else none) past

@[simp] theorem home_concat (past : List Command) (c : Command) :
    home (past ++ [c]) = if c.code = "LH" then c.point else home past := by
  rw [home, last?_getD_concat]
  split <;> rfl

@[simp] theorem untilOrigin_concat (past : List Command) (c : Command) :
    untilOrigin (past ++ [c]) = if c.code = "FO" then past ++ [c] else untilOrigin past := by
  by_cases h : c.code = "FO" <;> simp [untilOrigin, h]

/-- An origin counts from the home before it; a home that is set later does not move it. -/
@[simp] theorem cursor_concat (past : List Command) (c : Command) :
    cursor (past ++ [c]) =
      if c.code = "FO" then
        ⟨Dot.add c.point.x (home past).x, Dot.add c.point.y (home past).y⟩
      else cursor past := by
  by_cases h : c.code = "FO" <;> simp [cursor, h]

@[simp] theorem fontHeight_concat (past : List Command) (c : Command) :
    fontHeight (past ++ [c]) =
      (if c.IsFont ∨ c.code = "CF" then c.size? 1 else none).getD (fontHeight past) :=
  last?_getD_concat ..

/-- A font without an orientation sets the normal one, a barcode without one leaves it. -/
@[simp] theorem orientation_concat (past : List Command) (c : Command) :
    orientation (past ++ [c]) =
      (if c.IsFont then some (c.turn?.getD .normal)
        else if c.code = "BC" then c.turn? else none).getD (orientation past) :=
  last?_getD_concat ..

@[simp] theorem moduleWidth_concat (past : List Command) (c : Command) :
    moduleWidth (past ++ [c]) =
      (if c.code = "BY" then c.size? 0 else none).getD (moduleWidth past) :=
  last?_getD_concat ..

@[simp] theorem barHeight_concat (past : List Command) (c : Command) :
    barHeight (past ++ [c]) =
      (if c.code = "BY" then c.sizeOr? 2 1
        else if c.code = "BC" then c.size? 1 else none).getD (barHeight past) :=
  last?_getD_concat ..

@[simp] theorem magnification_concat (past : List Command) (c : Command) :
    magnification (past ++ [c]) =
      if c.code = "BQ" then (c.sizeOr? 2 1).getD 4 else magnification past := by
  rw [magnification, last?_getD_concat]
  split <;> rfl

@[simp] theorem labelWidth_concat (past : List Command) (c : Command) :
    labelWidth (past ++ [c]) =
      (if c.code = "PW" then c.size? 0 else none).or (labelWidth past) :=
  last?_concat ..

/-! ## Fields -/

/-- The commands since the last separator. -/
def stretch (past : List Command) : List Command := past.rtakeWhile (·.code ≠ "FS")

/-- The data of the field that is being read. -/
def data? (past : List Command) : Option String :=
  last? (fun c => if c.code = "FD" then some c.arg else none) (stretch past)

/-- The last command that announces the kind of the field that is being read. -/
def announcement? (past : List Command) : Option Command :=
  last? (fun c => if c.code ∈ ["BC", "BQ", "GF"] then some c else none) (stretch past)

/-- The kind of field that a command announces. -/
def kindOf (c : Command) : Pending :=
  if c.code = "BC" then .bars else if c.code = "BQ" then .matrix else .picture c.header

/-- The kind of field that has been announced. -/
def pending (past : List Command) : Pending :=
  ((announcement? past).map kindOf).getD .nothing

@[simp] theorem stretch_concat (past : List Command) (c : Command) :
    stretch (past ++ [c]) = if c.code = "FS" then [] else stretch past ++ [c] := by
  by_cases h : c.code = "FS" <;> simp [stretch, h]

@[simp] theorem data?_concat (past : List Command) (c : Command) :
    data? (past ++ [c]) =
      if c.code = "FS" then none else if c.code = "FD" then some c.arg else data? past := by
  simp only [data?, stretch_concat]
  split
  · rfl
  · rw [last?_concat]
    split <;> rfl

/-- A field stays announced up to a separator or to another announcement. -/
@[simp] theorem announcement?_concat (past : List Command) (c : Command) :
    announcement? (past ++ [c]) =
      if c.code = "FS" then none else if c.code ∈ ["BC", "BQ", "GF"] then some c
      else announcement? past := by
  simp only [announcement?, stretch_concat]
  split
  · rfl
  · rw [last?_concat]
    split <;> rfl

/-! ## The layout -/

/-- The layout that a history tells. -/
def layout (past : List Command) : Layout where
  home := home past
  cursor := cursor past
  font := Layout.defaultFont
  fontHeight := fontHeight past
  orientation := orientation past
  moduleWidth := moduleWidth past
  barHeight := barHeight past
  magnification := magnification past
  labelWidth := labelWidth past
  pending := pending past
  data := data? past

/-- One more command does to a layout what it does to the reading. -/
theorem layout_concat (past : List Command) (c : Command) :
    layout (past ++ [c]) = (layout past).next (Directive.ofCommand c) := by
  unfold Directive.ofCommand
  split
  case h_12 =>
    by_cases hf : c.code.toList.head? = some 'A'
    · simp_all [layout, pending, Layout.next, Command.IsFont, Command.size?_eq, Command.turn?_eq]
    · simp_all [layout, pending, Layout.next, Command.IsFont]
  all_goals
    rename_i h
    simp [h, layout, pending, Layout.next, Command.IsFont, Command.size?_eq, Command.sizeOr?_eq,
      Command.turn?_eq, Command.point, Command.int_eq, Command.header, Directive.point,
      Layout.defaultMagnification, kindOf]

/-- The layout that any label leads to is the one that its history tells. -/
theorem run_eq (cs : List Command) :
    (Layout.initial.run (cs.map Directive.ofCommand)).1 = layout cs := by
  induction cs using List.reverseRecOn with
  | nil => rfl
  | append_singleton cs c ih =>
    rw [layout_concat, ← ih, List.map_append, Layout.run_append]
    rfl

/-- The element that the command at place `i` puts on the label. -/
def placed? (cs : List Command) (i : Nat) : Option Element :=
  cs[i]?.bind fun c =>
    (Layout.initial.run ((cs.take i).map Directive.ofCommand)).1.placed (Directive.ofCommand c)

/-- An element is placed by the layout that the commands before it leave. -/
theorem placed?_eq {cs : List Command} {i : Nat} {c : Command} (h : cs[i]? = some c) :
    placed? cs i = (layout (cs.take i)).placed (Directive.ofCommand c) := by
  rw [placed?, h, Option.bind_some, run_eq]

/-- What comes later changes nothing that was placed. -/
theorem placed?_append {cs : List Command} {i : Nat} (h : i < cs.length) (ds : List Command) :
    placed? (cs ++ ds) i = placed? cs i := by
  rw [placed?, placed?, List.getElem?_append_left h, List.take_append_of_le_length h.le]

/-- A document has the elements that its commands place, in the order of the commands. -/
theorem elements_ofCommands (cs : List Command) :
    (Document.ofCommands cs).elements = (List.range cs.length).filterMap (placed? cs) := by
  induction cs using List.reverseRecOn with
  | nil => rfl
  | append_singleton cs c ih =>
    have hc : (cs ++ [c])[cs.length]? = some c := by simp
    have hlast : placed? (cs ++ [c]) cs.length = (layout cs).placed (Directive.ofCommand c) := by
      rw [placed?_eq hc, List.take_left]
    have hinit : (List.range cs.length).filterMap (placed? (cs ++ [c])) =
        (List.range cs.length).filterMap (placed? cs) :=
      List.filterMap_congr fun i hi => placed?_append (List.mem_range.1 hi) [c]
    rw [List.length_append, List.length_singleton, List.range_succ, List.filterMap_append, hinit,
      ← ih, List.filterMap_cons, hlast, ← run_eq]
    simp only [Document.ofCommands, Document.ofDirectives, List.map_append, Layout.run_append,
      List.map_cons, List.map_nil, Layout.run_cons, Layout.run_nil, List.append_nil]
    cases (Layout.placed _ _) <;> simp

end History

end LabelRaster

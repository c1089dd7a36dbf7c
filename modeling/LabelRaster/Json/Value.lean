import LabelRaster.Decimal.Numeral

/-!
# JSON values and their text

`Value` is a JSON value; an object keeps its members in order. `Value.print`
writes a value in a `Style`: `compact` puts everything on one line, `pretty`
each item on a line of its own, indented by two blanks a level. Empty arrays and
objects are written without a break in either style.

In a string only what must be escaped is escaped: the quote, the backslash and
the characters below U+0020, five of which have a short form.
-/

namespace LabelRaster.Json

/-- A JSON value. A number is kept as the numeral that writes it. -/
inductive Value where
  | null
  | bool (b : Bool)
  | number (numeral : List Char)
  | string (s : String)
  | array (items : List Value)
  | object (members : List (String × Value))
deriving Repr, Inhabited

/-- An integer as a JSON value. -/
def Value.int (n : Int) : Value := .number (Decimal.numeral n)

/-- The last digit of `n` in base sixteen. -/
def hexDigit (n : Nat) : Char := Nat.digitChar (n % 16)

/-- The text of one character inside a string. -/
def escape (c : Char) : List Char :=
  match c with
  | '"' => ['\\', '"']
  | '\\' => ['\\', '\\']
  | '\n' => ['\\', 'n']
  | '\r' => ['\\', 'r']
  | '\t' => ['\\', 't']
  | '\x08' => ['\\', 'b']
  | '\x0c' => ['\\', 'f']
  | c =>
    if c.toNat < 0x20 then ['\\', 'u', '0', '0', hexDigit (c.toNat / 16), hexDigit c.toNat] else [c]

/-- The text of a string. -/
def quote (s : String) : List Char := '"' :: s.toList.flatMap escape ++ ['"']

/-- Where a printer breaks lines. -/
structure Style where
  /-- What stands between a bracket or comma and the next item, at a given depth. -/
  line : Nat → List Char
  /-- What stands between a member's name and its value. -/
  colon : List Char

/-- Everything on one line, without blanks. -/
def compact : Style := ⟨fun _ => [], [':']⟩

/-- Each item on a line of its own. -/
def pretty : Style := ⟨fun depth => '\n' :: List.replicate (2 * depth) ' ', [':', ' ']⟩

/-- The items of an array or object between its brackets. -/
def Style.enclose (style : Style) (depth : Nat) (opening closing : Char) :
    List (List Char) → List Char
  | [] => [opening, closing]
  | item :: items =>
    opening :: style.line (depth + 1) ++ item ++
      items.flatMap (fun i => ',' :: style.line (depth + 1) ++ i) ++ style.line depth ++ [closing]

mutual

/-- The text of a value at some depth of nesting. -/
def Value.print (style : Style) (depth : Nat) : Value → List Char
  | .null => ['n', 'u', 'l', 'l']
  | .bool true => ['t', 'r', 'u', 'e']
  | .bool false => ['f', 'a', 'l', 's', 'e']
  | .number numeral => numeral
  | .string s => quote s
  | .array items => style.enclose depth '[' ']' (printItems style (depth + 1) items)
  | .object members => style.enclose depth '\x7b' '\x7d' (printMembers style (depth + 1) members)

/-- The texts of the items of an array. -/
def printItems (style : Style) (depth : Nat) : List Value → List (List Char)
  | [] => []
  | v :: vs => v.print style depth :: printItems style depth vs

/-- The texts of the members of an object. -/
def printMembers (style : Style) (depth : Nat) : List (String × Value) → List (List Char)
  | [] => []
  | m :: ms => printMember style depth m :: printMembers style depth ms

/-- The text of one member of an object. -/
def printMember (style : Style) (depth : Nat) : String × Value → List Char
  | (name, v) => quote name ++ style.colon ++ v.print style depth

end

/-- The text of a value. -/
def Value.toText (style : Style) (v : Value) : String := String.ofList (v.print style 0)

end LabelRaster.Json

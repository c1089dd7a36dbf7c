import LabelRaster.Text.Blank

/-!
# Commands

A label is written as a stream of commands. A caret starts each one; the two
characters after it are its code and the rest, up to the next caret, its
argument. `^XA` opens a label and `^XZ` closes it: commands are read from
between the first opening and the last closing mark, or from the whole text if
there is no such stretch.

Reading never fails. Blanks around a fragment are dropped, and so is a fragment
with fewer than two characters left.
-/

namespace LabelRaster

/-- A command: its two-character code and the raw text of its argument. -/
structure Command where
  code : String
  arg : String
deriving DecidableEq, Repr, Inhabited

namespace Command

/-- The character that starts a command. -/
def caret : Char := '^'

/-- Opens a label. -/
def opening : List Char := ['^', 'X', 'A']

/-- Closes a label. -/
def closing : List Char := ['^', 'X', 'Z']

/-- What follows the first occurrence of `mark`. -/
def afterFirst? (mark : List Char) : List Char → Option (List Char)
  | [] => none
  | c :: r => if mark.isPrefixOf (c :: r) then some ((c :: r).drop mark.length) else afterFirst? mark r

/-- What precedes the last occurrence of `mark`. -/
def beforeLast? (mark cs : List Char) : Option (List Char) :=
  (afterFirst? mark.reverse cs.reverse).map List.reverse

/-- The stretch of a text that holds the label's commands. -/
def body (text : List Char) : List Char :=
  ((afterFirst? opening text).bind (beforeLast? closing)).getD text

/-- The command of one fragment between carets. -/
def ofFragment? (fragment : List Char) : Option Command :=
  match Text.trim fragment with
  | a :: b :: arg => some ⟨String.ofList [a, b], String.ofList arg⟩
  | _ => none

/-- The commands of a label's text, in order. -/
def ofText (text : String) : List Command :=
  ((body text.toList).splitOn caret).filterMap ofFragment?

/-- Only a fragment without a full code is dropped. -/
theorem ofFragment?_eq_none_iff {fragment : List Char} :
    ofFragment? fragment = none ↔ (Text.trim fragment).length < 2 := by
  unfold ofFragment?
  split
  · rename_i h; simp [h]
  · rename_i h
    match hf : Text.trim fragment with
    | [] => simp
    | [_] => simp
    | a :: b :: r => exact absurd hf (h a b r)

/-- Nothing of a fragment that is kept is lost, but for the blanks around it. -/
theorem code_append_arg {fragment : List Char} {c : Command} (h : ofFragment? fragment = some c) :
    (c.code ++ c.arg).toList = Text.trim fragment := by
  unfold ofFragment? at h
  split at h
  · rename_i hf
    cases h
    simp [hf]
  · cases h

end Command

end LabelRaster

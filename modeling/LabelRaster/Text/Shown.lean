import LabelRaster.Text.HiddenTable
import LabelRaster.Text.LowerCase

/-!
# Texts in messages

A message shows a text between quotes and on one line: the quote, the backslash
and the common controls are escaped, and what has no visible form of its own is
given by its number.
-/

namespace LabelRaster.Text

/-- The hexadecimal digits of a number. -/
def hexDigits (n : Nat) : List Char := Nat.toDigits 16 n

/-- A character as a message shows it. -/
def shownChar (c : Char) : List Char :=
  match c with
  | '"' => ['\\', '"']
  | '\\' => ['\\', '\\']
  | '\t' => ['\\', 't']
  | '\r' => ['\\', 'r']
  | '\n' => ['\\', 'n']
  | '\x00' => ['\\', '0']
  | c =>
    if inRanges hiddenRanges c.toNat then ['\\', 'u', '\x7b'] ++ hexDigits c.toNat ++ ['\x7d']
    else [c]

/-- A text as a message shows it. -/
def shown (s : String) : String := String.ofList ('"' :: s.toList.flatMap shownChar ++ ['"'])

end LabelRaster.Text

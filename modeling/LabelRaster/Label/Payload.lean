import LabelRaster.Text.Pattern

/-!
# The payload of a matrix symbol

The data of a matrix symbol may start with instructions to the printer, which
are no part of what the symbol encodes: a mode of one or two letters and a comma
(`LA,`), or a header of one letter, digits, letters and a comma that a mode of
any length may follow (`D03040C,LA,`). `payload` cuts them off. The header is
tried first; no text starts with both.
-/

namespace LabelRaster.Payload

open Text (Pattern)

/-- A comma. -/
def comma : Pattern := .one (· == ',')

/-- A mode of one or two letters. -/
def shortMode : Pattern := .seq (.one Char.isAlpha) (.seq (.maybe (.one Char.isAlpha)) comma)

/-- A mode of any length. -/
def mode : Pattern := .seq (.run Char.isAlpha) comma

/-- A header, and the mode after it if there is one. -/
def header : Pattern :=
  .seq (.one Char.isAlpha) (.seq (.run Char.isDigit)
    (.seq (.many Char.isAlpha) (.seq comma (.maybe mode))))

/-- What a matrix symbol encodes, given the data of its field. -/
def payload (cs : List Char) : List Char :=
  ((header.rest? cs).or (shortMode.rest? cs)).getD cs

end LabelRaster.Payload

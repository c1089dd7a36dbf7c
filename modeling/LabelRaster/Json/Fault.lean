import LabelRaster.Decimal.Written
import LabelRaster.Text.Shown

/-!
# What can be wrong with a JSON text

A JSON text is read once, from left to right, and the first thing that is wrong
counts: the text may stop being JSON, end too early, or hold something other than
what was wanted at that place.
-/

namespace LabelRaster.Json

/-- What a text holds where something else was wanted. -/
inductive Found where
  | null
  | bool (b : Bool)
  | integer (n : Int)
  | float (x : Float)
  | string (s : String)
  | array
  | object

/-- The wording of what was found. -/
def Found.text : Found → String
  | null => "null"
  | bool true => "boolean `true`"
  | bool false => "boolean `false`"
  | integer n => "integer `" ++ toString n ++ "`"
  | float x => "floating point `" ++ String.ofList (Decimal.scientific x) ++ "`"
  | string s => "string " ++ Text.shown s
  | array => "sequence"
  | object => "map"

/-- How a value differs from what was wanted. -/
inductive Mismatch where
  /-- A value of another kind. -/
  | kind (found : Found) (wanted : String)
  /-- An integer outside the range of what was wanted. -/
  | range (n : Int) (wanted : String)
  /-- A name that is none of the known ones. -/
  | variant (name : String) (known : List String)
  /-- A member that was there before. -/
  | duplicate (name : String)
  /-- An array that ends after `n` items. -/
  | length (n : Nat) (wanted : String)
  /-- A value that its reader refuses, in the reader's words. -/
  | refused (message : String)

/-- The wording of a mismatch. -/
def Mismatch.text : Mismatch → String
  | kind found wanted => "invalid type: " ++ found.text ++ ", expected " ++ wanted
  | range n wanted => "invalid value: integer `" ++ toString n ++ "`, expected " ++ wanted
  | variant name known =>
    "unknown variant `" ++ name ++ "`, expected one of " ++
      String.intercalate ", " (known.map fun k => "`" ++ k ++ "`")
  | duplicate name => "duplicate field `" ++ name ++ "`"
  | length n wanted => "invalid length " ++ toString n ++ ", expected " ++ wanted
  | refused message => message

/-- What is wrong with a text. -/
inductive Fault where
  /-- The text is not JSON. -/
  | malformed
  /-- The text ends too early. -/
  | cut
  /-- The text holds something else than was wanted. -/
  | mismatch (m : Mismatch)

end LabelRaster.Json

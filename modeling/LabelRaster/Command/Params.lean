import LabelRaster.Decimal.Leading

/-!
# Parameters of a command

The argument of most commands is a list of parameters between commas. A
parameter that is missing or empty counts as absent, and the reader of the
command picks a default.

* `get?_eq_some_iff`: what is present is a field that is not empty.
-/

namespace LabelRaster

/-- The fields of a command's argument. -/
structure Params where
  fields : List (List Char)
deriving DecidableEq, Repr

namespace Params

/-- The fields between the commas of `arg`. -/
def ofText (arg : String) : Params := ⟨arg.toList.splitOn ','⟩

/-- The field at `i`, if it is there and not empty. -/
def get? (p : Params) (i : Nat) : Option (List Char) :=
  p.fields[i]?.filter fun field => !field.isEmpty

/-- The first field that is present, looking at the places `is` in order. -/
def firstPresent? (p : Params) (is : List Nat) : Option (List Char) := is.findSome? p.get?

/-- The integer that the field at `i` starts with. -/
def int? (p : Params) (i : Nat) : Option Int := (p.get? i).bind Decimal.leadingInt?

/-- The integer that the first present field starts with: a field that is there but writes no
integer is not passed over. -/
def firstInt? (p : Params) (is : List Nat) : Option Int :=
  (p.firstPresent? is).bind Decimal.leadingInt?

/-- The first character of the field at `i`. -/
def letter? (p : Params) (i : Nat) : Option Char := (p.get? i).bind List.head?

theorem get?_eq_some_iff {p : Params} {i : Nat} {field : List Char} :
    p.get? i = some field ↔ p.fields[i]? = some field ∧ field ≠ [] := by
  simp only [get?, Option.filter_eq_some_iff, Bool.not_eq_true', List.isEmpty_eq_false_iff]

end Params

end LabelRaster

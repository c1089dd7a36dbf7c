import Mathlib.Data.List.Induction
import Mathlib.Data.Nat.Digits.Defs
import LabelRaster.Decimal.Numeral

/-!
# The integer at the start of a field

A field falls into its blanks, a sign, the digits of an integer, and the rest. The digits
are added up under a ceiling, which keeps the sum in 64 signed bits (`foldlM_addDigit?`),
and the sum is cut to the range of positions only at the end. As the ceiling lies beyond
that range to both sides, the position read is the one nearest to the integer that is
written, be it of any length (`leadingInt?_eq`).
-/

namespace LabelRaster.Decimal

/-! ## Runs of digits -/

/-- The digits stand in their order from number 48 on. -/
theorem digitValue_eq (c : Char) : digitValue c = c.toNat - 48 := rfl

theorem digitValue_le {c : Char} (h : c.isDigit = true) : digitValue c ≤ 9 := by
  have hc := toNat_bounds_of_isDigit h
  rw [digitValue_eq]
  omega

/-- The first of the digits is the most significant one. -/
theorem value_eq_ofDigits (digits : List Char) :
    value digits = Nat.ofDigits 10 (digits.reverse.map fun c => c.toNat - 48) := by
  induction digits using List.reverseRecOn with
  | nil => rfl
  | append_singleton digits c ih =>
    rw [value_append_singleton, digitValue_eq, List.reverse_concat, List.map_cons,
      Nat.ofDigits_cons, ih]
    exact Nat.add_comm ..

/-- A number, if 64 signed bits hold it. -/
def word? (n : Int) : Option Int :=
  if -9223372036854775808 ≤ n ∧ n ≤ 9223372036854775807 then some n else none

/-- One more digit of a sum that is held at the ceiling of a field, worked out in 64 signed bits. -/
def addDigit? (sum : Int) (c : Char) : Option Int := do
  let tens ← word? (10 * sum)
  let longer ← word? (tens + digitValue c)
  return min longer fieldCap

theorem addDigit?_eq {sum : Nat} (hsum : sum ≤ fieldCap) {c : Char} (hc : c.isDigit = true) :
    addDigit? sum c = some ((min (10 * sum + digitValue c) fieldCap : Nat) : Int) := by
  have hdigit := digitValue_le hc
  rw [fieldCap] at hsum
  have htens : word? (10 * sum) = some (10 * sum : Int) := if_pos (by omega)
  have hlonger : word? (10 * sum + digitValue c) = some (10 * sum + digitValue c : Int) :=
    if_pos (by omega)
  rw [addDigit?, htens, Option.bind_eq_bind, Option.bind_some, hlonger, Option.bind_some]
  exact congrArg some (by omega)

/-- Whatever the number of digits, their sum stays within 64 signed bits at every step. -/
theorem foldlM_addDigit? {digits : List Char} (h : ∀ c ∈ digits, c.isDigit = true) :
    digits.foldlM addDigit? 0 = some (cappedValue fieldCap digits : Int) := by
  suffices hrun : ∀ sum : Nat, sum ≤ fieldCap → digits.foldlM addDigit? (sum : Int) =
      some ((digits.foldl (fun acc c => min (10 * acc + digitValue c) fieldCap) sum : Nat) : Int) from
    hrun 0 (Nat.zero_le _)
  induction digits with
  | nil => exact fun sum _ => rfl
  | cons c digits ih =>
    intro sum hsum
    rw [List.forall_mem_cons] at h
    rw [List.foldlM_cons, addDigit?_eq hsum h.1, Option.bind_eq_bind, Option.bind_some,
      ih h.2 _ (Nat.min_le_right ..), List.foldl_cons]

/-! ## The parts of a field -/

/-- What may stand before the digits of an integer. -/
inductive Sign where
  | none
  | plus
  | minus
deriving DecidableEq

namespace Sign

/-- How a sign is written. -/
def text : Sign → List Char
  | none => []
  | plus => ['+']
  | minus => ['-']

/-- A number with a sign before it. -/
def apply : Sign → Nat → Int
  | none, n => n
  | plus, n => n
  | minus, n => -n

theorem splitSign_text_append {sign : Sign} {cs : List Char}
    (h : sign = none → ∀ c ∈ cs.head?, c ≠ '+' ∧ c ≠ '-') :
    splitSign (sign.text ++ cs) = (sign == minus, cs) := by
  cases sign with
  | plus => rfl
  | minus => rfl
  | none =>
    cases cs with
    | nil => rfl
    | cons c cs =>
      obtain ⟨hplus, hminus⟩ := h rfl c rfl
      rw [text, List.nil_append, splitSign]
      · rfl
      · rintro r ⟨rfl, -⟩
        exact hminus rfl
      · rintro r ⟨rfl, -⟩
        exact hplus rfl

/-- A text has a sign in front, or it starts with neither of the two. -/
theorem exists_text_append (cs : List Char) :
    ∃ (sign : Sign) (rest : List Char), sign.text ++ rest = cs ∧
      (sign = none → ∀ c ∈ rest.head?, c ≠ '+' ∧ c ≠ '-') := by
  by_cases hminus : cs.head? = some '-'
  · obtain ⟨rest, rfl⟩ := List.head?_eq_some_iff.1 hminus
    exact ⟨minus, rest, rfl, nofun⟩
  by_cases hplus : cs.head? = some '+'
  · obtain ⟨rest, rfl⟩ := List.head?_eq_some_iff.1 hplus
    exact ⟨plus, rest, rfl, nofun⟩
  refine ⟨none, cs, rfl, fun _ c hc => ⟨?_, ?_⟩⟩
  · rintro rfl
    exact hplus hc
  · rintro rfl
    exact hminus hc

end Sign

/-- The parts of a field, each as long as it can be. -/
structure Parts (field : List Char) where
  blanks : List Char
  sign : Sign
  digits : List Char
  rest : List Char
  append_eq : blanks ++ (sign.text ++ (digits ++ rest)) = field
  isBlank_blanks : ∀ c ∈ blanks, Text.isBlank c = true
  isBlank_next : ∀ c ∈ (sign.text ++ (digits ++ rest)).head?, Text.isBlank c = false
  /-- A sign that is there is not passed over. -/
  sign_next : sign = .none → ∀ c ∈ (digits ++ rest).head?, c ≠ '+' ∧ c ≠ '-'
  isDigit_digits : ∀ c ∈ digits, c.isDigit = true
  isDigit_next : ∀ c ∈ rest.head?, c.isDigit = false

namespace Parts

theorem nonempty (field : List Char) : Nonempty (Parts field) := by
  obtain ⟨sign, cs, htrim, hsign⟩ := Sign.exists_text_append (Text.trimStart field)
  have hdigits : cs.takeWhile Char.isDigit ++ cs.dropWhile Char.isDigit = cs :=
    List.takeWhile_append_dropWhile
  refine ⟨field.takeWhile Text.isBlank, sign, cs.takeWhile Char.isDigit,
    cs.dropWhile Char.isDigit, ?_, List.all_eq_true.1 List.all_takeWhile, ?_, ?_,
    List.all_eq_true.1 List.all_takeWhile, fun c hc => ?_⟩
  · rw [hdigits, htrim]
    exact List.takeWhile_append_dropWhile
  · rw [hdigits, htrim]
    exact Text.head?_trimStart field
  · rwa [hdigits]
  · have hnot := List.head?_dropWhile_not Char.isDigit cs
    rw [Option.mem_def] at hc
    rwa [hc] at hnot

variable {field : List Char} (p : Parts field)

/-- The integer that the sign and the digits write, the last digit being the least significant. -/
def integer : Int := p.sign.apply (Nat.ofDigits 10 (p.digits.reverse.map fun c => c.toNat - 48))

theorem trimStart_eq : Text.trimStart field = p.sign.text ++ (p.digits ++ p.rest) := by
  have h : Text.trimStart (p.blanks ++ (p.sign.text ++ (p.digits ++ p.rest))) =
      Text.trimStart (p.sign.text ++ (p.digits ++ p.rest)) :=
    Text.trimStart_append p.isBlank_blanks
  rwa [p.append_eq, Text.trimStart_eq_self p.isBlank_next] at h

/-- The ceiling of the sum does not show in a position. -/
theorem clamp_cappedValue :
    Dot.clamp (if p.sign == .minus then -(cappedValue fieldCap p.digits : Int)
      else cappedValue fieldCap p.digits) = Dot.clamp p.integer := by
  obtain ⟨hpos, hneg⟩ := clamp_min_fieldCap (value p.digits)
  rw [integer, cappedValue_eq, ← value_eq_ofDigits]
  cases p.sign with
  | none => exact hpos
  | plus => exact hpos
  | minus => exact hneg

theorem leadingInt?_eq :
    leadingInt? field = if p.digits = [] then none else some (Dot.clamp p.integer) := by
  rw [leadingInt?, p.trimStart_eq, Sign.splitSign_text_append p.sign_next, ← p.clamp_cappedValue]
  simp only [Lists.takeWhile_run p.isDigit_digits p.isDigit_next, List.isEmpty_iff]

end Parts

/-- A field without digits after its blanks and its sign writes no integer. Any other one is read as
the position nearest to the integer that it writes, and no sum of its digits leaves 64 signed
bits on the way. -/
theorem leadingInt?_parts (field : List Char) :
    Nonempty (Parts field) ∧ ∀ p : Parts field,
      leadingInt? field = (if p.digits = [] then none else some (Dot.clamp p.integer)) ∧
      p.digits.foldlM addDigit? 0 = some (cappedValue fieldCap p.digits : Int) :=
  ⟨Parts.nonempty field, fun p => ⟨p.leadingInt?_eq, foldlM_addDigit? p.isDigit_digits⟩⟩

/-- The ceiling lies beyond the leftmost position, leading zeros do not count, and what follows the
digits is passed over. -/
example : leadingInt? "\u2003-002147483649 mm".toList = some (-2147483648) ∧
    leadingInt? "+-5".toList = none := by decide

end LabelRaster.Decimal

import LabelRaster.Decimal.Leading

/-!
# Integers as text

An integer is written with its decimal digits, without leading zeros, after a minus
sign if it is negative. So its text tells it (`numeral_inj`), and a field that starts
with it is read as that integer (`leadingInt?_numeral`).
-/

namespace LabelRaster.Decimal

/-- The character of a digit. -/
def digitChar (d : Nat) : Char := Char.ofNat ('0'.toNat + d)

/-- The digits of a number. -/
def digits (n : Nat) : List Char :=
  if n < 10 then [digitChar n] else digits (n / 10) ++ [digitChar (n % 10)]

/-- The text of an integer. -/
def numeral : Int → List Char
  | .ofNat n => digits n
  | .negSucc n => '-' :: digits (n + 1)

/-! ## Characters -/

theorem digitValue_digitChar {d : Nat} (h : d < 10) : digitValue (digitChar d) = d := by
  have : ∀ d : Fin 10, digitValue (digitChar d) = d := by decide
  exact this ⟨d, h⟩

theorem isDigit_digitChar {d : Nat} (h : d < 10) : (digitChar d).isDigit = true := by
  have : ∀ d : Fin 10, (digitChar d).isDigit = true := by decide
  exact this ⟨d, h⟩

theorem digits_ne_nil (n : Nat) : digits n ≠ [] := by
  rw [digits]
  split <;> simp

/-- A number does not start with a zero, unless it is zero. -/
theorem head?_digits_ne_zero {n : Nat} (h : n ≠ 0) : ∀ c ∈ (digits n).head?, c ≠ '0' := by
  induction n using Nat.strongRecOn with
  | ind n ih =>
    rw [digits]
    split
    · rename_i hn
      rintro _ ⟨⟩ hzero
      have hvalue := digitValue_digitChar hn
      rw [hzero] at hvalue
      exact h hvalue.symm
    · have htens := ih (n / 10) (by omega) (by omega)
      obtain ⟨c, cs, hcons⟩ := List.exists_cons_of_ne_nil (digits_ne_nil (n / 10))
      rw [hcons] at htens ⊢
      exact htens

theorem digits_ne_zero_cons (n : Nat) (c : Char) (cs : List Char) : digits n ≠ '0' :: c :: cs := by
  intro h
  by_cases hn : n = 0
  · rw [hn] at h
    exact absurd (congrArg List.length h) (by simp [digits])
  · exact head?_digits_ne_zero hn '0' (h ▸ rfl) rfl

theorem isDigit_of_mem_digits {n : Nat} {c : Char} (h : c ∈ digits n) : c.isDigit = true := by
  induction n using Nat.strongRecOn with
  | ind n ih =>
    rw [digits] at h
    split at h
    · rename_i hn
      rw [List.mem_singleton] at h
      exact h ▸ isDigit_digitChar hn
    · rename_i hn
      rcases List.mem_append.1 h with h | h
      · exact ih _ (by omega) h
      · rw [List.mem_singleton] at h
        exact h ▸ isDigit_digitChar (by omega)

theorem mem_numeral {i : Int} {c : Char} (h : c ∈ numeral i) : c = '-' ∨ c.isDigit = true := by
  cases i with
  | ofNat n => exact .inr (isDigit_of_mem_digits h)
  | negSucc n =>
    rcases List.mem_cons.1 h with rfl | h
    · exact .inl rfl
    · exact .inr (isDigit_of_mem_digits h)

theorem numeral_ne_nil (i : Int) : numeral i ≠ [] := by
  cases i with
  | ofNat n => exact digits_ne_nil n
  | negSucc n => exact List.cons_ne_nil _ _

/-! ## Reading back -/

theorem value_append_singleton (ds : List Char) (c : Char) :
    value (ds ++ [c]) = 10 * value ds + digitValue c := by
  simp [value]

theorem value_digits (n : Nat) : value (digits n) = n := by
  induction n using Nat.strongRecOn with
  | ind n ih =>
    rw [digits]
    split
    · rename_i hn
      simp [value, digitValue_digitChar hn]
    · rw [value_append_singleton, ih _ (by omega), digitValue_digitChar (by omega)]
      omega

theorem digits_inj {m n : Nat} : digits m = digits n ↔ m = n := by
  refine ⟨fun h => ?_, congrArg _⟩
  rw [← value_digits m, h, value_digits]

theorem numeral_inj {i j : Int} : numeral i = numeral j ↔ i = j := by
  have hsign (m n : Nat) : digits m ≠ '-' :: digits n := fun h => by
    have hminus : '-'.isDigit = true := isDigit_of_mem_digits (h ▸ List.mem_cons_self)
    exact absurd hminus (by decide)
  refine ⟨fun h => ?_, congrArg _⟩
  cases i with
  | ofNat m =>
    cases j with
    | ofNat n => exact congrArg Int.ofNat (digits_inj.1 h)
    | negSucc n => exact (hsign _ _ h).elim
  | negSucc m =>
    cases j with
    | ofNat n => exact (hsign _ _ h.symm).elim
    | negSucc n => exact congrArg Int.negSucc (Nat.succ.inj (digits_inj.1 (List.cons.inj h).2))

/-- A number in front of a text ends where the text does not go on with a digit. -/
theorem takeWhile_digits_append {n : Nat} {rest : List Char}
    (h : ∀ c ∈ rest.head?, c.isDigit = false) :
    (digits n ++ rest).takeWhile Char.isDigit = digits n :=
  Lists.takeWhile_run (fun _ => isDigit_of_mem_digits) h

theorem not_isBlank_of_isDigit {c : Char} (h : c.isDigit = true) : Text.isBlank c = false := by
  have hc := toNat_bounds_of_isDigit h
  simp only [Text.isBlank, Bool.or_eq_false_iff, Bool.and_eq_false_iff, decide_eq_false_iff_not,
    beq_eq_false_iff_ne, ne_eq]
  omega

/-- No digit is taken for a sign. -/
theorem splitSign_digits_append (n : Nat) (rest : List Char) :
    splitSign (digits n ++ rest) = (false, digits n ++ rest) := by
  cases hd : digits n with
  | nil => exact absurd hd (digits_ne_nil n)
  | cons c r =>
    have hc : c.isDigit = true := isDigit_of_mem_digits (n := n) (by simp [hd])
    rw [List.cons_append, splitSign]
    · rintro r' ⟨rfl, -⟩; simp at hc
    · rintro r' ⟨rfl, -⟩; simp at hc

theorem trimStart_digits_append (n : Nat) (rest : List Char) :
    Text.trimStart (digits n ++ rest) = digits n ++ rest := by
  apply Text.trimStart_eq_self
  cases hd : digits n with
  | nil => exact absurd hd (digits_ne_nil n)
  | cons c r =>
    rintro c' hc'
    have : c = c' := by simpa using hc'
    exact this ▸ not_isBlank_of_isDigit (isDigit_of_mem_digits (n := n) (by simp [hd]))

/-- The ceiling lies so far beyond every position that it does not show in one. -/
theorem clamp_min_fieldCap (n : Nat) :
    Dot.clamp (min n fieldCap : Nat) = Dot.clamp n ∧
      Dot.clamp (-(min n fieldCap : Nat)) = Dot.clamp (-n) := by
  simp only [Dot.clamp, Dot.least, Dot.greatest, fieldCap]
  omega

/-- A field that starts with an integer is read as that integer, as far as a position can hold it.
-/
theorem leadingInt?_numeral (i : Int) {rest : List Char}
    (h : ∀ c ∈ rest.head?, c.isDigit = false) :
    leadingInt? (numeral i ++ rest) = some (Dot.clamp i) := by
  have hne (n : Nat) : (digits n).isEmpty = false := by simp [digits_ne_nil]
  cases i with
  | ofNat n =>
    simp only [leadingInt?, numeral, trimStart_digits_append, splitSign_digits_append,
      takeWhile_digits_append h, hne, cappedValue_eq, value_digits, (clamp_min_fieldCap n).1,
      Bool.false_eq_true, if_false, Int.ofNat_eq_natCast]
  | negSucc n =>
    have hb : Text.trimStart ('-' :: (digits (n + 1) ++ rest)) = '-' :: (digits (n + 1) ++ rest) :=
      Text.trimStart_eq_self (by simp; decide)
    simp only [leadingInt?, numeral, List.cons_append, hb, splitSign, takeWhile_digits_append h, hne,
      cappedValue_eq, value_digits, (clamp_min_fieldCap (n + 1)).2, Bool.false_eq_true, if_false,
      if_true, Int.negSucc_eq, Int.natCast_add, Int.natCast_one]

end LabelRaster.Decimal

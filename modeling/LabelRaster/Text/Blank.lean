/-!
# Blank characters

The characters that separate words in every script: Unicode's `White_Space`.
Blanks at the ends of a command or of a setting carry no meaning and are cut
off by `trim`; `trimStart` and `trimEnd` cut one end.
-/

namespace LabelRaster.Text

/-- Whether `c` has the property `White_Space`. -/
def isBlank (c : Char) : Bool :=
  let n := c.toNat
  (0x09 ≤ n && n ≤ 0x0d) || n == 0x20 || n == 0x85 || n == 0xa0 || n == 0x1680 ||
    (0x2000 ≤ n && n ≤ 0x200a) || n == 0x2028 || n == 0x2029 || n == 0x202f || n == 0x205f ||
    n == 0x3000

/-- The text from its first character that is not blank. -/
def trimStart (cs : List Char) : List Char := cs.dropWhile isBlank

/-- The text up to its last character that is not blank. -/
def trimEnd (cs : List Char) : List Char := (cs.reverse.dropWhile isBlank).reverse

/-- The text without the blanks at its ends. -/
def trim (cs : List Char) : List Char := trimEnd (trimStart cs)

theorem trimStart_eq_self {cs : List Char} (h : ∀ c ∈ cs.head?, isBlank c = false) :
    trimStart cs = cs := by
  cases cs with
  | nil => rfl
  | cons c r => simp [trimStart, h c (by simp)]

theorem trimEnd_eq_self {cs : List Char} (h : ∀ c ∈ cs.getLast?, isBlank c = false) :
    trimEnd cs = cs := by
  have hr : trimStart cs.reverse = cs.reverse := trimStart_eq_self (by simpa using h)
  rw [trimStart] at hr
  rw [trimEnd, hr, List.reverse_reverse]

/-- Blanks in front of a text are cut off with its own. -/
theorem trimStart_append {before cs : List Char} (h : ∀ c ∈ before, isBlank c = true) :
    trimStart (before ++ cs) = trimStart cs := List.dropWhile_append_of_pos h

theorem trimEnd_append {after cs : List Char} (h : ∀ c ∈ after, isBlank c = true) :
    trimEnd (cs ++ after) = trimEnd cs := by
  rw [trimEnd, List.reverse_append,
    List.dropWhile_append_of_pos fun c hc => h c (List.mem_reverse.1 hc), trimEnd]

/-- Blanks around a text with no blank at either end are cut off, and nothing else. -/
theorem trim_between {before cs after : List Char} (hne : cs ≠ [])
    (hbefore : ∀ c ∈ before, isBlank c = true) (hafter : ∀ c ∈ after, isBlank c = true)
    (h : ∀ c ∈ cs.head?, isBlank c = false) (h' : ∀ c ∈ cs.getLast?, isBlank c = false) :
    trim (before ++ cs ++ after) = cs := by
  have hhead : (cs ++ after).head? = cs.head? := by
    rw [List.head?_append, List.head?_eq_some_head hne, Option.some_or]
  rw [trim, List.append_assoc, trimStart_append hbefore, trimStart_eq_self (hhead ▸ h),
    trimEnd_append hafter, trimEnd_eq_self h']

/-! ## What is left -/

theorem trimStart_suffix (cs : List Char) : trimStart cs <:+ cs := List.dropWhile_suffix isBlank

theorem exists_trimEnd_append (cs : List Char) : ∃ blanks, trimEnd cs ++ blanks = cs := by
  obtain ⟨blanks, h⟩ := List.dropWhile_suffix (l := cs.reverse) isBlank
  refine ⟨blanks.reverse, ?_⟩
  rw [trimEnd, ← List.reverse_append, h, List.reverse_reverse]

theorem trim_sublist (cs : List Char) : (trim cs).Sublist cs := by
  obtain ⟨blanks, h⟩ := exists_trimEnd_append (trimStart cs)
  exact (h ▸ List.sublist_append_left ..).trans (trimStart_suffix cs).sublist

theorem head?_trimStart (cs : List Char) : ∀ c ∈ (trimStart cs).head?, isBlank c = false := by
  intro c hc
  have h := List.head?_dropWhile_not isBlank cs
  rw [trimStart, Option.mem_def] at hc
  rwa [hc] at h

/-- What is left does not start with a blank. -/
theorem head?_trim (cs : List Char) : ∀ c ∈ (trim cs).head?, isBlank c = false := by
  intro c hc
  obtain ⟨blanks, h⟩ := exists_trimEnd_append (trimStart cs)
  refine head?_trimStart cs c ?_
  rw [trim, Option.mem_def] at hc
  rw [← h, List.head?_append, hc, Option.some_or, Option.mem_some]

/-- What is left does not end with a blank. -/
theorem getLast?_trim (cs : List Char) : ∀ c ∈ (trim cs).getLast?, isBlank c = false := by
  rw [trim, trimEnd, List.getLast?_reverse]
  exact head?_trimStart _

end LabelRaster.Text

import Mathlib.Data.List.Basic
import LabelRaster.Label.Payload

/-!
# Instructions in front of a payload

The instructions to the printer that the data of a matrix symbol may start with, told
by what they consist of. The data can start with several of them, one of which starts
with the other; the longest is cut off, and nothing else:

* `isCut_payload`: what is cut off is the longest instruction that the data starts with;
* `payload_append`: whatever follows an instruction that ends with a mode is kept.
-/

namespace LabelRaster.Payload

open Text (Pattern)

/-- One or two letters and a comma. -/
def IsShortMode (s : List Char) : Prop :=
  ∃ letters, (letters.length = 1 ∨ letters.length = 2) ∧ (∀ c ∈ letters, c.isAlpha = true) ∧
    s = letters ++ [',']

/-- One or more letters and a comma. -/
def IsMode (s : List Char) : Prop :=
  ∃ letters, letters ≠ [] ∧ (∀ c ∈ letters, c.isAlpha = true) ∧ s = letters ++ [',']

/-- A letter, one or more digits, any number of letters, and a comma. -/
def IsHeader (s : List Char) : Prop :=
  ∃ letter digits letters, letter.isAlpha = true ∧
    (digits ≠ [] ∧ ∀ c ∈ digits, c.isDigit = true) ∧ (∀ c ∈ letters, c.isAlpha = true) ∧
    s = letter :: digits ++ letters ++ [',']

/-- The instructions to the printer. -/
def IsInstruction (s : List Char) : Prop :=
  IsHeader s ∨ (∃ header mode, IsHeader header ∧ IsMode mode ∧ s = header ++ mode) ∨ IsShortMode s

/-- Data without the longest instruction that it starts with; all of it if it starts with none. -/
def IsCut (data rest : List Char) : Prop :=
  (∃ pre, IsInstruction pre ∧ pre ++ rest = data ∧
    ∀ pre', IsInstruction pre' → pre' <+: data → pre'.length ≤ pre.length) ∨
  (∀ pre, IsInstruction pre → ¬ pre <+: data) ∧ rest = data

/-! ## The patterns of the instructions -/

theorem isAlpha_eq_false_of_isDigit {c : Char} (h : c.isDigit = true) : c.isAlpha = false := by
  -- all digits come before all letters
  have hbefore {d : Char} (hd : '9'.val.toNat < d.val.toNat) : ¬ c.val ≥ d.val := by
    simp only [Char.isDigit, Bool.and_eq_true, decide_eq_true_eq, UInt32.le_iff_toNat_le] at h
    rw [ge_iff_le, UInt32.le_iff_toNat_le]
    omega
  have hupper : c.isUpper = false := decide_eq_false fun h => hbefore (by decide) h.1
  have hlower : c.isLower = false := by
    show (decide (c.val ≥ 'a'.val) && decide (c.val ≤ 'z'.val)) = false
    rw [decide_eq_false (hbefore (by decide)), Bool.false_and]
  show (c.isUpper || c.isLower) = false
  rw [hupper, hlower, Bool.false_or]

theorem matches_comma_iff {s : List Char} : comma.Matches s ↔ s = [','] := by
  constructor
  · rintro ⟨c, hc, rfl⟩
    rw [beq_iff_eq.1 hc]
  · rintro rfl
    exact ⟨',', rfl, rfl⟩

theorem matches_mode_iff {s : List Char} : mode.Matches s ↔ IsMode s := by
  constructor
  · rintro ⟨letters, _, hrun, hcomma, rfl⟩
    obtain ⟨hne, hletters⟩ := Pattern.matches_run_iff.1 hrun
    rw [matches_comma_iff.1 hcomma]
    exact ⟨letters, hne, hletters, rfl⟩
  · rintro ⟨letters, hne, hletters, rfl⟩
    exact ⟨letters, [','], Pattern.matches_run_iff.2 ⟨hne, hletters⟩, matches_comma_iff.2 rfl, rfl⟩

theorem matches_shortMode_iff {s : List Char} : shortMode.Matches s ↔ IsShortMode s := by
  constructor
  · rintro ⟨_, _, ⟨c, hc, rfl⟩, ⟨_, _, ⟨d, hd, rfl⟩ | rfl, hcomma, rfl⟩, rfl⟩
    · rw [matches_comma_iff.1 hcomma]
      exact ⟨[c, d], .inr rfl, by simp [hc, hd], rfl⟩
    · rw [matches_comma_iff.1 hcomma]
      exact ⟨[c], .inl rfl, by simp [hc], rfl⟩
  · rintro ⟨letters, hlength | hlength, hletters, rfl⟩
    · obtain ⟨c, rfl⟩ := List.length_eq_one_iff.1 hlength
      rw [List.forall_mem_singleton] at hletters
      exact ⟨[c], [','], ⟨c, hletters, rfl⟩,
        ⟨[], [','], .inr rfl, matches_comma_iff.2 rfl, rfl⟩, rfl⟩
    · obtain ⟨c, d, rfl⟩ := List.length_eq_two.1 hlength
      rw [List.forall_mem_cons, List.forall_mem_singleton] at hletters
      exact ⟨[c], [d, ','], ⟨c, hletters.1, rfl⟩,
        ⟨[d], [','], .inl ⟨d, hletters.2, rfl⟩, matches_comma_iff.2 rfl, rfl⟩, rfl⟩

/-- The pattern stands for a header with a mode behind it or without. -/
theorem matches_header_iff {s : List Char} :
    header.Matches s ↔
      IsHeader s ∨ ∃ header mode, IsHeader header ∧ IsMode mode ∧ s = header ++ mode := by
  constructor
  · rintro ⟨_, _, ⟨c, hc, rfl⟩, ⟨digits, _, hdigits, ⟨letters, _, hletters,
      ⟨_, m, hcomma, hm, rfl⟩, rfl⟩, rfl⟩, rfl⟩
    have hheader : IsHeader (c :: digits ++ letters ++ [',']) :=
      ⟨c, digits, letters, hc, Pattern.matches_run_iff.1 hdigits, hletters, rfl⟩
    rw [matches_comma_iff.1 hcomma]
    rcases hm with hm | rfl
    · refine .inr ⟨_, m, hheader, matches_mode_iff.1 hm, by simp⟩
    · exact .inl (by simpa using hheader)
  · have hmatches : ∀ h m, IsHeader h → (Pattern.maybe mode).Matches m →
        header.Matches (h ++ m) := by
      rintro _ m ⟨c, digits, letters, hc, hdigits, hletters, rfl⟩ hm
      exact ⟨[c], digits ++ (letters ++ ([','] ++ m)), ⟨c, hc, rfl⟩,
        ⟨digits, letters ++ ([','] ++ m), Pattern.matches_run_iff.2 hdigits,
          ⟨letters, [','] ++ m, hletters, ⟨[','], m, matches_comma_iff.2 rfl, hm, rfl⟩, rfl⟩, rfl⟩,
        by simp⟩
    rintro (hs | ⟨h, m, hh, hm, rfl⟩)
    · simpa using hmatches s [] hs (.inr rfl)
    · exact hmatches h m hh (.inl (matches_mode_iff.2 hm))

/-! ## The longest instruction -/

section Comma

variable {p : Char → Bool}

theorem ne_comma (hp : p ',' = false) (c : Char) (hc : p c = true) : (c == ',') = false := by
  refine beq_eq_false_iff_ne.2 ?_
  rintro rfl
  rw [hp] at hc
  exact Bool.false_ne_true hc

theorem avoids_comma (hp : p ',' = false) : comma.Avoids p := Pattern.avoids_one (ne_comma hp)

theorem avoids_comma_seq (hp : p ',' = false) (a : Pattern) : (Pattern.seq comma a).Avoids p :=
  Pattern.avoids_one_seq (ne_comma hp) a

theorem dropWhile_comma (hp : p ',' = false) {w : List Char} (hw : ∀ c ∈ w, p c = true)
    (rest : List Char) : (w ++ ',' :: rest).dropWhile p = ',' :: rest := by
  rw [List.dropWhile_append_of_pos hw,
    List.dropWhile_cons_of_neg fun h => Bool.false_ne_true (hp ▸ h)]

end Comma

theorem isGreedy_mode : mode.IsGreedy :=
  (Pattern.IsGreedy.one _).run_seq (avoids_comma rfl)

theorem isGreedy_shortMode : shortMode.IsGreedy :=
  ((Pattern.IsGreedy.one _).maybe_one_seq (avoids_comma rfl)).one_seq _

/-- Letters and a comma never start with a digit, so that the digits of a header are taken whole. -/
theorem avoids_letters_seq {a : Pattern} :
    (Pattern.seq (.many Char.isAlpha) (.seq comma a)).Avoids Char.isDigit :=
  Pattern.avoids_many_seq (fun _ => isAlpha_eq_false_of_isDigit)
    (avoids_comma_seq rfl a)
    (avoids_comma_seq rfl a)

/-- A header is tried with the mode behind it first, so that its ways to match get no longer. -/
theorem isGreedy_header : header.IsGreedy :=
  (((isGreedy_mode.maybe.one_seq _).many_seq
    (avoids_comma_seq rfl _)).run_seq avoids_letters_seq).one_seq _

/-- The second character tells a header from a mode of one or two letters. -/
theorem not_matches_header_of_shortMode {cs pre pre' : List Char} (h : header.Matches pre)
    (hcs : pre <+: cs) (h' : shortMode.Matches pre') : ¬ pre' <+: cs := by
  rintro ⟨rest', rfl⟩
  obtain ⟨rest, hcs⟩ := hcs
  obtain ⟨_, _, ⟨c, -, rfl⟩, ⟨_, _, ⟨_, _, ⟨d, hd, rfl⟩, -, rfl⟩, -, rfl⟩, rfl⟩ := h
  obtain ⟨_, _, ⟨c', -, rfl⟩, ⟨_, _, ⟨d', hd', rfl⟩ | rfl, hcomma, rfl⟩, rfl⟩ := h'
  · obtain ⟨-, rfl, -⟩ : c = c' ∧ d = d' ∧ _ := by simpa using hcs
    rw [isAlpha_eq_false_of_isDigit hd] at hd'
    exact absurd hd' Bool.false_ne_true
  · rw [matches_comma_iff.1 hcomma] at hcs
    obtain ⟨-, rfl, -⟩ : c = c' ∧ d = ',' ∧ _ := by simpa using hcs
    exact absurd hd (by decide)

/-- Nothing but the longest instruction that the data starts with is cut off. -/
theorem isCut_payload (cs : List Char) : IsCut cs (payload cs) := by
  have hinstruction (s : List Char) :
      IsInstruction s ↔ header.Matches s ∨ shortMode.Matches s := by
    rw [matches_header_iff, matches_shortMode_iff, IsInstruction, or_assoc]
  simp only [IsCut, hinstruction]
  cases hheader : header.rest? cs with
  | some rest =>
    obtain ⟨pre, hpre, hcs, hlongest⟩ := isGreedy_header.exists_longest hheader
    have hpayload : payload cs = rest := by
      rw [payload, hheader]
      rfl
    refine .inl ⟨pre, .inl hpre, hpayload ▸ hcs, fun pre' hpre' hprefix => ?_⟩
    rcases hpre' with hpre' | hpre'
    · exact hlongest pre' hpre' hprefix
    · exact (not_matches_header_of_shortMode hpre ⟨rest, hcs⟩ hpre' hprefix).elim
  | none =>
    have hno := Pattern.rest?_eq_none_iff.1 hheader
    cases hmode : shortMode.rest? cs with
    | some rest =>
      obtain ⟨pre, hpre, hcs, hlongest⟩ := isGreedy_shortMode.exists_longest hmode
      have hpayload : payload cs = rest := by
        rw [payload, hheader, hmode]
        rfl
      exact .inl ⟨pre, .inr hpre, hpayload ▸ hcs, fun pre' hpre' hprefix =>
        hpre'.elim (fun h => (hno pre' h hprefix).elim) fun h => hlongest pre' h hprefix⟩
    | none =>
      refine .inr ⟨fun pre hpre hprefix => ?_, ?_⟩
      · exact hpre.elim (fun h => hno pre h hprefix) fun h =>
          Pattern.rest?_eq_none_iff.1 hmode pre h hprefix
      · rw [payload, hheader, hmode]
        rfl

/-! ## Instructions that end with a mode -/

theorem rests_mode {s : List Char} (h : IsMode s) (rest : List Char) :
    mode.rests (s ++ rest) = [rest] := by
  obtain ⟨letters, hne, hletters, rfl⟩ := h
  obtain ⟨c, cs, rfl⟩ := List.exists_cons_of_ne_nil hne
  rw [List.forall_mem_cons] at hletters
  rw [mode, List.append_assoc, List.cons_append, List.singleton_append,
    Pattern.rests_run_seq (avoids_comma rfl) hletters.1, dropWhile_comma rfl hletters.2]
  rfl

theorem rests_shortMode {s : List Char} (h : IsShortMode s) (rest : List Char) :
    shortMode.rests (s ++ rest) = [rest] := by
  obtain ⟨letters, hlength | hlength, hletters, rfl⟩ := h
  · obtain ⟨c, rfl⟩ := List.length_eq_one_iff.1 hlength
    rw [List.forall_mem_singleton] at hletters
    exact Pattern.rests_one_seq hletters _ (',' :: rest)
  · obtain ⟨c, d, rfl⟩ := List.length_eq_two.1 hlength
    rw [List.forall_mem_cons, List.forall_mem_singleton] at hletters
    have hsecond := Pattern.rests_maybe_one_seq (avoids_comma rfl) hletters.2 (',' :: rest)
    exact (Pattern.rests_one_seq hletters.1 _ (d :: ',' :: rest)).trans hsecond

/-- Behind a header the modes are tried first, and then nothing. -/
theorem rests_header {s : List Char} (h : IsHeader s) (rest : List Char) :
    header.rests (s ++ rest) = mode.rests rest ++ [rest] := by
  obtain ⟨c, digits, letters, hc, ⟨hne, hdigits⟩, hletters, rfl⟩ := h
  obtain ⟨d, ds, rfl⟩ := List.exists_cons_of_ne_nil hne
  rw [List.forall_mem_cons] at hdigits
  have hstop : (letters ++ ',' :: rest).dropWhile Char.isDigit = letters ++ ',' :: rest := by
    cases letters with
    | nil => rfl
    | cons l ls =>
      refine List.dropWhile_cons_of_neg fun hl => ?_
      rw [List.forall_mem_cons, isAlpha_eq_false_of_isDigit hl] at hletters
      exact Bool.false_ne_true hletters.1
  have hassoc : c :: (d :: ds) ++ letters ++ [','] ++ rest =
      c :: d :: (ds ++ (letters ++ ',' :: rest)) := by simp
  rw [hassoc, header, Pattern.rests_one_seq hc, Pattern.rests_run_seq avoids_letters_seq hdigits.1,
    List.dropWhile_append_of_pos hdigits.2, hstop,
    Pattern.rests_many_seq (avoids_comma_seq rfl _),
    dropWhile_comma rfl hletters]
  exact Pattern.rests_one_seq rfl (.maybe mode) rest

/-- Whatever follows a mode of one or two letters, or a header with a mode, is kept. -/
theorem payload_append (pre rest : List Char)
    (h : IsShortMode pre ∨ ∃ header mode, IsHeader header ∧ IsMode mode ∧ pre = header ++ mode) :
    payload (pre ++ rest) = rest := by
  rcases h with h | ⟨h, m, hh, hm, rfl⟩
  · have hheader : header.rest? (pre ++ rest) = none :=
      Pattern.rest?_eq_none_iff.2 fun pre' hpre' hprefix =>
        not_matches_header_of_shortMode hpre' hprefix (matches_shortMode_iff.2 h) ⟨rest, rfl⟩
    rw [payload, hheader, Pattern.rest?, rests_shortMode h]
    rfl
  · rw [payload, Pattern.rest?, List.append_assoc, rests_header hh, rests_mode hm]
    rfl

/-- The longest instruction that the data starts with is cut off, if there is one, and nothing else;
so whatever follows a mode of one or two letters, or a header with a mode, is kept as it is. -/
theorem payload_spec :
    (∀ cs, IsCut cs (payload cs)) ∧
    ∀ pre rest,
      (IsShortMode pre ∨ ∃ header mode, IsHeader header ∧ IsMode mode ∧ pre = header ++ mode) →
        payload (pre ++ rest) = rest :=
  ⟨isCut_payload, payload_append⟩

/-- What follows may look like one more instruction. -/
theorem payload_spec_again :
    let mode := ['L', 'A', ',']
    let header := ['D', '0', '3', 'C', ',']
    (IsShortMode mode ∧ IsHeader header ∧ IsMode mode) ∧
      payload (mode ++ ['Q', 'A', ',', '1']) = ['Q', 'A', ',', '1'] ∧
      payload (header ++ mode ++ ['M', ',', '1']) = ['M', ',', '1'] := by
  intro mode header
  have hshort : IsShortMode mode := ⟨['L', 'A'], .inr rfl, List.all_eq_true.1 rfl, rfl⟩
  have hmode : IsMode mode := ⟨['L', 'A'], nofun, List.all_eq_true.1 rfl, rfl⟩
  have hheader : IsHeader header :=
    ⟨'D', ['0', '3'], ['C'], rfl, ⟨nofun, List.all_eq_true.1 rfl⟩, List.all_eq_true.1 rfl, rfl⟩
  exact ⟨⟨hshort, hheader, hmode⟩, payload_spec.2 _ _ (.inl hshort),
    payload_spec.2 _ _ (.inr ⟨_, _, hheader, hmode, rfl⟩)⟩

end LabelRaster.Payload

/-!
# Patterns

A pattern is matched from the start of a text. It can match in several ways, which
are tried in order: what may be repeated or left out is first taken as often as it
can be. `Pattern.rests` is what each way leaves of the text, `Pattern.rest?` what
the first way leaves. If the ways get no longer in the order in which they are tried,
that is the longest match (`IsGreedy.exists_longest`).
-/

namespace LabelRaster.Text

/-- A pattern of characters. -/
inductive Pattern where
  /-- One character of a class. -/
  | one (p : Char → Bool)
  /-- Any number of characters of a class, as many as possible. -/
  | many (p : Char → Bool)
  /-- One pattern after the other. -/
  | seq (a b : Pattern)
  /-- A pattern, or nothing if it does not match. -/
  | maybe (a : Pattern)

namespace Pattern

/-- One or more characters of a class. -/
def run (p : Char → Bool) : Pattern := .seq (.one p) (.many p)

/-- What is left after each number of characters of a class, the greatest number first. -/
def manyRests (p : Char → Bool) (fewer : List (List Char)) : List Char → List (List Char)
  | [] => [] :: fewer
  | c :: cs => if p c then manyRests p ((c :: cs) :: fewer) cs else (c :: cs) :: fewer

/-- What each way to match leaves of a text, in the order in which the ways are tried. -/
def rests : Pattern → List Char → List (List Char)
  | .one _, [] => []
  | .one p, c :: cs => if p c then [cs] else []
  | .many p, cs => manyRests p [] cs
  | .seq a b, cs => (a.rests cs).flatMap b.rests
  | .maybe a, cs => a.rests cs ++ [cs]

/-- What the first way to match leaves of a text. -/
def rest? (a : Pattern) (cs : List Char) : Option (List Char) := (a.rests cs).head?

/-- Whether a text is one of those that a pattern stands for. -/
def Matches : Pattern → List Char → Prop
  | .one p, s => ∃ c, p c = true ∧ s = [c]
  | .many p, s => ∀ c ∈ s, p c = true
  | .seq a b, s => ∃ u v, a.Matches u ∧ b.Matches v ∧ s = u ++ v
  | .maybe a, s => a.Matches s ∨ s = []

/-! ## Repetitions -/

theorem manyRests_eq_append (p : Char → Bool) (fewer : List (List Char)) (cs : List Char) :
    manyRests p fewer cs = manyRests p [] cs ++ fewer := by
  induction cs generalizing fewer with
  | nil => rfl
  | cons c cs ih =>
    rw [manyRests, manyRests]
    split
    · rw [ih, ih [c :: cs], List.append_assoc]
      rfl
    · rfl

/-- To repeat nothing is the last way to match a repetition. -/
theorem rests_many_cons {p : Char → Bool} {c : Char} (hc : p c = true) (cs : List Char) :
    (many p).rests (c :: cs) = (many p).rests cs ++ [c :: cs] := by
  rw [rests, manyRests, if_pos hc, manyRests_eq_append]
  rfl

theorem rests_many_of_not {p : Char → Bool} {c : Char} (hc : ¬ p c = true) (cs : List Char) :
    (many p).rests (c :: cs) = [c :: cs] := if_neg hc

/-! ## Ways to match -/

theorem mem_rests_one_iff {p : Char → Bool} {cs rest : List Char} :
    rest ∈ (one p).rests cs ↔ ∃ c, p c = true ∧ c :: rest = cs := by
  cases cs with
  | nil => simp [rests]
  | cons c cs =>
    rw [rests]
    split
    · rename_i hc
      rw [List.mem_singleton]
      constructor
      · rintro rfl
        exact ⟨c, hc, rfl⟩
      · rintro ⟨_, -, h⟩
        exact (List.cons.inj h).2
    · rename_i hc
      constructor
      · nofun
      · rintro ⟨_, hd, h⟩
        obtain ⟨rfl, -⟩ := List.cons.inj h
        exact (hc hd).elim

theorem mem_rests_many_iff {p : Char → Bool} {cs rest : List Char} :
    rest ∈ (many p).rests cs ↔ ∃ pre, (∀ c ∈ pre, p c = true) ∧ pre ++ rest = cs := by
  induction cs with
  | nil =>
    rw [rests, manyRests, List.mem_singleton]
    constructor
    · rintro rfl
      exact ⟨[], nofun, rfl⟩
    · rintro ⟨pre, -, h⟩
      exact (List.append_eq_nil_iff.1 h).2
  | cons c cs ih =>
    by_cases hc : p c = true
    · rw [rests_many_cons hc, List.mem_append, ih, List.mem_singleton]
      constructor
      · rintro (⟨pre, hpre, rfl⟩ | rfl)
        · exact ⟨c :: pre, List.forall_mem_cons.2 ⟨hc, hpre⟩, rfl⟩
        · exact ⟨[], nofun, rfl⟩
      · rintro ⟨pre, hpre, h⟩
        cases pre with
        | nil => exact .inr h
        | cons d pre =>
          obtain ⟨rfl, rfl⟩ := List.cons.inj h
          exact .inl ⟨pre, (List.forall_mem_cons.1 hpre).2, rfl⟩
    · rw [rests_many_of_not hc, List.mem_singleton]
      constructor
      · rintro rfl
        exact ⟨[], nofun, rfl⟩
      · rintro ⟨pre, hpre, h⟩
        cases pre with
        | nil => exact h
        | cons d pre =>
          obtain ⟨rfl, -⟩ := List.cons.inj h
          exact (hc (hpre _ List.mem_cons_self)).elim

/-- The ways to match are the texts of the pattern that the text starts with. -/
theorem mem_rests_iff {a : Pattern} {cs rest : List Char} :
    rest ∈ a.rests cs ↔ ∃ pre, a.Matches pre ∧ pre ++ rest = cs := by
  induction a generalizing cs rest with
  | one p =>
    rw [mem_rests_one_iff]
    constructor
    · rintro ⟨c, hc, rfl⟩
      exact ⟨[c], ⟨c, hc, rfl⟩, rfl⟩
    · rintro ⟨_, ⟨c, hc, rfl⟩, rfl⟩
      exact ⟨c, hc, rfl⟩
  | many p => exact mem_rests_many_iff
  | seq a b iha ihb =>
    simp only [rests, List.mem_flatMap, iha, ihb]
    constructor
    · rintro ⟨_, ⟨u, hu, rfl⟩, v, hv, rfl⟩
      exact ⟨u ++ v, ⟨u, v, hu, hv, rfl⟩, List.append_assoc ..⟩
    · rintro ⟨_, ⟨u, v, hu, hv, rfl⟩, rfl⟩
      exact ⟨v ++ rest, ⟨u, hu, (List.append_assoc ..).symm⟩, v, hv, rfl⟩
  | maybe a ih =>
    rw [rests, List.mem_append, ih, List.mem_singleton]
    constructor
    · rintro (⟨pre, hpre, rfl⟩ | rfl)
      · exact ⟨pre, .inl hpre, rfl⟩
      · exact ⟨[], .inr rfl, rfl⟩
    · rintro ⟨pre, hpre | rfl, rfl⟩
      · exact .inl ⟨pre, hpre, rfl⟩
      · exact .inr rfl

theorem length_le_of_mem_rests {a : Pattern} {cs rest : List Char} (h : rest ∈ a.rests cs) :
    rest.length ≤ cs.length := by
  obtain ⟨pre, -, rfl⟩ := mem_rests_iff.1 h
  rw [List.length_append]
  omega

/-- Matching fails only if no text of the pattern stands in front. -/
theorem rest?_eq_none_iff {a : Pattern} {cs : List Char} :
    a.rest? cs = none ↔ ∀ pre, a.Matches pre → ¬ pre <+: cs := by
  rw [rest?, List.head?_eq_none_iff, List.eq_nil_iff_forall_not_mem]
  simp only [mem_rests_iff]
  constructor
  · rintro h pre hpre ⟨rest, hrest⟩
    exact h rest ⟨pre, hpre, hrest⟩
  · rintro h rest ⟨pre, hpre, hrest⟩
    exact h pre hpre ⟨rest, hrest⟩

theorem matches_run_iff {p : Char → Bool} {s : List Char} :
    (run p).Matches s ↔ s ≠ [] ∧ ∀ c ∈ s, p c = true := by
  constructor
  · rintro ⟨_, cs, ⟨c, hc, rfl⟩, hcs, rfl⟩
    exact ⟨nofun, List.forall_mem_cons.2 ⟨hc, hcs⟩⟩
  · rintro ⟨hne, hall⟩
    cases s with
    | nil => exact (hne rfl).elim
    | cons c cs =>
      rw [List.forall_mem_cons] at hall
      exact ⟨[c], cs, ⟨c, hall.1, rfl⟩, hall.2, rfl⟩

/-! ## Repetitions that give nothing back -/

/-- No text that starts with a character of the class is matched. -/
def Avoids (a : Pattern) (p : Char → Bool) : Prop := ∀ c, p c = true → ∀ cs, a.rests (c :: cs) = []

section Avoids

variable {p q : Char → Bool} {a : Pattern}

theorem avoids_one (h : ∀ c, p c = true → q c = false) : (one q).Avoids p := by
  intro c hc cs
  rw [rests, h c hc]
  rfl

theorem avoids_one_seq (h : ∀ c, p c = true → q c = false) (a : Pattern) :
    (seq (one q) a).Avoids p := by
  intro c hc cs
  rw [rests, rests, h c hc]
  rfl

theorem rests_one_seq {c : Char} (hc : p c = true) (a : Pattern) (cs : List Char) :
    (seq (one p) a).rests (c :: cs) = a.rests cs := by
  rw [rests, rests, if_pos hc, List.flatMap_singleton]

/-- A repetition gives nothing back if what follows it cannot start with what it repeats. -/
theorem rests_many_seq (h : a.Avoids p) (cs : List Char) :
    (seq (many p) a).rests cs = a.rests (cs.dropWhile p) := by
  induction cs with
  | nil => exact List.flatMap_singleton ..
  | cons c cs ih =>
    rw [rests] at ih ⊢
    by_cases hc : p c = true
    · rw [rests_many_cons hc, List.flatMap_append, ih, List.flatMap_singleton, h c hc cs,
        List.append_nil, List.dropWhile_cons_of_pos hc]
    · rw [rests_many_of_not hc, List.flatMap_singleton, List.dropWhile_cons_of_neg hc]

theorem avoids_many_seq (hq : ∀ c, p c = true → q c = false) (haq : a.Avoids q) (hap : a.Avoids p) :
    (seq (many q) a).Avoids p := by
  intro c hc cs
  rw [rests_many_seq haq, List.dropWhile_cons_of_neg (by rw [hq c hc]; exact Bool.false_ne_true)]
  exact hap c hc cs

theorem rests_maybe_one_seq (h : a.Avoids p) {c : Char} (hc : p c = true) (cs : List Char) :
    (seq (maybe (one p)) a).rests (c :: cs) = a.rests cs := by
  rw [rests, rests, rests, if_pos hc, List.singleton_append, List.flatMap_cons,
    List.flatMap_singleton, h c hc cs, List.append_nil]

theorem rests_run_seq (h : a.Avoids p) {c : Char} (hc : p c = true) (cs : List Char) :
    (seq (run p) a).rests (c :: cs) = a.rests (cs.dropWhile p) := by
  have hrun : (run p).rests (c :: cs) = (many p).rests cs := rests_one_seq hc (many p) cs
  rw [rests, hrun]
  exact rests_many_seq h cs

end Avoids

/-! ## The longest match -/

/-- The ways to match get no longer in the order in which they are tried. -/
def IsGreedy (a : Pattern) : Prop :=
  ∀ cs, (a.rests cs).Pairwise fun rest rest' => rest.length ≤ rest'.length

namespace IsGreedy

variable {p : Char → Bool} {a : Pattern}

theorem one (p : Char → Bool) : (one p).IsGreedy
  | [] => .nil
  | c :: cs => by
    rw [rests]
    split
    · exact List.pairwise_singleton ..
    · exact .nil

/-- The empty match is tried last, and nothing is shorter. -/
theorem maybe (h : a.IsGreedy) : a.maybe.IsGreedy := by
  intro cs
  refine List.pairwise_append.2 ⟨h cs, List.pairwise_singleton .., fun rest hrest rest' hrest' => ?_⟩
  rw [List.mem_singleton.1 hrest']
  exact length_le_of_mem_rests hrest

theorem one_seq (h : a.IsGreedy) (p : Char → Bool) : (seq (.one p) a).IsGreedy
  | [] => .nil
  | c :: cs => by
    by_cases hc : p c = true
    · rw [rests_one_seq hc]
      exact h cs
    · rw [rests, rests, if_neg hc]
      exact .nil

/-- A repetition that gives nothing back adds no ways to match. -/
theorem many_seq (h : a.IsGreedy) (hp : a.Avoids p) : (seq (many p) a).IsGreedy := by
  intro cs
  rw [rests_many_seq hp]
  exact h _

theorem maybe_one_seq (h : a.IsGreedy) (hp : a.Avoids p) : (seq (.maybe (.one p)) a).IsGreedy
  | [] => by
    rw [rests, rests, rests, List.nil_append, List.flatMap_singleton]
    exact h []
  | c :: cs => by
    by_cases hc : p c = true
    · rw [rests_maybe_one_seq hp hc]
      exact h cs
    · rw [rests, rests, rests, if_neg hc, List.nil_append, List.flatMap_singleton]
      exact h (c :: cs)

theorem run_seq (h : a.IsGreedy) (hp : a.Avoids p) : (seq (run p) a).IsGreedy := by
  intro cs
  have hseq : (seq (run p) a).rests cs = (seq (.one p) (seq (many p) a)).rests cs := by
    rw [rests, run, rests, List.flatMap_assoc]
    rfl
  rw [hseq]
  exact (h.many_seq hp).one_seq p cs

/-- The first way to match is the longest. -/
theorem exists_longest (h : a.IsGreedy) {cs rest : List Char} (hrest : a.rest? cs = some rest) :
    ∃ pre, a.Matches pre ∧ pre ++ rest = cs ∧
      ∀ pre', a.Matches pre' → pre' <+: cs → pre'.length ≤ pre.length := by
  obtain ⟨others, hrests⟩ := List.head?_eq_some_iff.1 hrest
  obtain ⟨pre, hpre, hcs⟩ := mem_rests_iff.1 (hrests ▸ List.mem_cons_self : rest ∈ a.rests cs)
  refine ⟨pre, hpre, hcs, fun pre' hpre' ⟨rest', hcs'⟩ => ?_⟩
  have hmem : rest' ∈ rest :: others := hrests ▸ mem_rests_iff.2 ⟨pre', hpre', hcs'⟩
  have hle : rest.length ≤ rest'.length := by
    rcases List.mem_cons.1 hmem with rfl | hmem
    · exact Nat.le_refl _
    · have hpairwise := h cs
      rw [hrests, List.pairwise_cons] at hpairwise
      exact hpairwise.1 rest' hmem
  have hlength := congrArg List.length (hcs.trans hcs'.symm)
  rw [List.length_append, List.length_append] at hlength
  omega

end IsGreedy

end Pattern

end LabelRaster.Text

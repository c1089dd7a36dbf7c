/-!
# Lists

What core does not say about lists: where a run of one class of characters ends, and
that a loop over numbers comes through if each of its steps does.
-/

namespace LabelRaster.Lists

/-- A run of items ends before the first one that is of another class. -/
theorem takeWhile_run {α : Type} {p : α → Bool} {run rest : List α} (h : ∀ a ∈ run, p a = true)
    (hrest : ∀ a ∈ rest.head?, p a = false) : (run ++ rest).takeWhile p = run := by
  rw [List.takeWhile_append_of_pos h]
  cases rest with
  | nil => exact List.append_nil run
  | cons a rest =>
    have ha : ¬ p a = true := by rw [hrest a rfl]; exact Bool.false_ne_true
    rw [List.takeWhile_cons_of_neg ha, List.append_nil]

/-- A loop that may fail succeeds and keeps an invariant if each of its steps does; the invariant
knows the number of the step that comes next. -/
theorem exists_foldlM_range' {σ : Type} {step : σ → Nat → Option σ} {inv : Nat → σ → Prop}
    (k n : Nat)
    (hstep : ∀ i s, k ≤ i → i < k + n → inv i s → ∃ s', step s i = some s' ∧ inv (i + 1) s')
    {s : σ} (hs : inv k s) :
    ∃ s', (List.range' k n).foldlM step s = some s' ∧ inv (k + n) s' := by
  induction n generalizing k s with
  | zero => exact ⟨s, rfl, hs⟩
  | succ n ih =>
    obtain ⟨t, ht, htinv⟩ := hstep k s (Nat.le_refl k) (by omega) hs
    obtain ⟨s', hs', hinv⟩ :=
      ih (k + 1) (fun i s hi hlt => hstep i s (by omega) (by omega)) htinv
    refine ⟨s', ?_, ?_⟩
    · rw [List.range'_succ, List.foldlM_cons, ht]
      exact hs'
    · rw [Nat.add_right_comm] at hinv
      exact hinv

end LabelRaster.Lists

import Mathlib.Data.List.Basic
import LabelRaster.Command.Basic

/-!
# The marks of a label

A mark holds one caret, its first character. So it never lies across a caret, and what
stands before the opening mark of a label and after its closing mark cannot move either
of them: the body is what stands between them, whatever marks it holds (`body_marked`).
-/

namespace LabelRaster.Command

/-! ## Where a mark is found -/

theorem append_of_afterFirst? {mark cs rest : List Char} (h : afterFirst? mark cs = some rest) :
    ∃ before, cs = before ++ mark ++ rest := by
  induction cs with
  | nil => cases h
  | cons c cs ih =>
    rw [afterFirst?] at h
    split at h
    · rename_i hp
      obtain ⟨t, ht⟩ := List.isPrefixOf_iff_prefix.1 hp
      rw [← ht, List.drop_left, Option.some.injEq] at h
      exact ⟨[], by rw [← ht, h, List.nil_append]⟩
    · obtain ⟨before, rfl⟩ := ih h
      exact ⟨c :: before, rfl⟩

theorem append_of_beforeLast? {mark cs before : List Char}
    (h : beforeLast? mark cs = some before) : ∃ rest, cs = before ++ mark ++ rest := by
  obtain ⟨r, hr, rfl⟩ := Option.map_eq_some_iff.1 h
  obtain ⟨t, ht⟩ := append_of_afterFirst? hr
  refine ⟨t.reverse, ?_⟩
  have := congrArg List.reverse ht
  simpa using this

theorem afterFirst?_eq_none {mark cs : List Char} (h : ¬ mark <:+: cs) :
    afterFirst? mark cs = none := by
  cases hr : afterFirst? mark cs with
  | none => rfl
  | some rest =>
    obtain ⟨before, rfl⟩ := append_of_afterFirst? hr
    exact absurd ⟨before, rest, rfl⟩ h

theorem beforeLast?_eq_none {mark cs : List Char} (h : ¬ mark <:+: cs) :
    beforeLast? mark cs = none := by
  rw [beforeLast?, afterFirst?_eq_none fun hr => h (List.reverse_infix.1 hr), Option.map_none]

/-- A mark that does not lie across the place where a text is cut is found in one of the parts. -/
theorem afterFirst?_append_or {mark xs ys : List Char}
    (h : ∀ u v, u ≠ [] → v ≠ [] → mark = u ++ v → u <:+ xs → ¬ v <+: ys) :
    afterFirst? mark (xs ++ ys) =
      ((afterFirst? mark xs).map (· ++ ys)).or (afterFirst? mark ys) := by
  induction xs with
  | nil => rfl
  | cons x xs ih =>
    have hxs := ih fun u v hu hv hm hs => h u v hu hv hm (hs.trans (List.suffix_cons x xs))
    rw [List.cons_append, afterFirst?, afterFirst?, ← List.cons_append]
    by_cases hp : mark <+: x :: xs
    · rw [if_pos (List.isPrefixOf_iff_prefix.2 hp),
        if_pos (List.isPrefixOf_iff_prefix.2 (hp.trans (List.prefix_append _ ys))),
        List.drop_append_of_le_length hp.length_le]
      rfl
    · have hp' : ¬ mark <+: x :: xs ++ ys := by
        intro hm
        have hxs := List.prefix_append (x :: xs) ys
        rcases List.prefix_or_prefix_of_prefix hm hxs with hc | ⟨v, rfl⟩
        · exact hp hc
        · refine h (x :: xs) v (List.cons_ne_nil x xs) ?_ rfl List.suffix_rfl
            ((List.prefix_append_right_inj _).1 hm)
          rintro rfl
          exact hp (by simp)
      rw [if_neg (mt List.isPrefixOf_iff_prefix.1 hp), if_neg (mt List.isPrefixOf_iff_prefix.1 hp'),
        hxs]

variable {m : List Char}

/-- The first mark of a text stands before a caret, or begins with it or after it. -/
theorem afterFirst?_caret (hm : caret ∉ m) (xs ys : List Char) :
    afterFirst? (caret :: m) (xs ++ caret :: ys) =
      ((afterFirst? (caret :: m) xs).map (· ++ caret :: ys)).or
        (afterFirst? (caret :: m) (caret :: ys)) := by
  refine afterFirst?_append_or fun u v hu hv huv _ hpre => ?_
  obtain ⟨c, u, rfl⟩ := List.exists_cons_of_ne_nil hu
  obtain ⟨d, v, rfl⟩ := List.exists_cons_of_ne_nil hv
  rw [(List.cons_prefix_cons.1 hpre).1, List.cons_append, List.cons.injEq] at huv
  exact hm (by simp [huv.2])

/-- The last mark of a text begins with a caret or after it, or stands before it. -/
theorem beforeLast?_caret (hm : caret ∉ m) (xs ys : List Char) :
    beforeLast? (caret :: m) (xs ++ caret :: ys) =
      ((beforeLast? (caret :: m) (caret :: ys)).map (xs ++ ·)).or
        (beforeLast? (caret :: m) xs) := by
  -- Read backwards, the mark ends with its caret.
  have hcut : afterFirst? (caret :: m).reverse ((caret :: ys).reverse ++ xs.reverse) =
      ((afterFirst? (caret :: m).reverse (caret :: ys).reverse).map (· ++ xs.reverse)).or
        (afterFirst? (caret :: m).reverse xs.reverse) := by
    refine afterFirst?_append_or fun u v hu hv huv ⟨t, ht⟩ _ => ?_
    obtain ⟨u, c, rfl⟩ := (List.eq_nil_or_concat u).resolve_left hu
    obtain ⟨v, d, rfl⟩ := (List.eq_nil_or_concat v).resolve_left hv
    simp only [List.reverse_cons, List.concat_eq_append, ← List.append_assoc] at huv ht
    obtain ⟨-, hc⟩ := List.append_inj' ht rfl
    obtain ⟨hmr, -⟩ := List.append_inj' huv rfl
    cases hc
    have hmem : caret ∈ m.reverse := by rw [hmr]; simp
    exact hm (List.mem_reverse.1 hmem)
  rw [beforeLast?, List.reverse_append, hcut, beforeLast?, beforeLast?]
  cases afterFirst? (caret :: m).reverse (caret :: ys).reverse with
  | none => simp
  | some r => simp

/-! ## The body of a marked label -/

theorem afterFirst?_append {mark : List Char} (hm : mark ≠ []) (rest : List Char) :
    afterFirst? mark (mark ++ rest) = some rest := by
  cases mark with
  | nil => exact absurd rfl hm
  | cons m mark =>
    have hp : (m :: mark).isPrefixOf (m :: mark ++ rest) = true :=
      List.isPrefixOf_iff_prefix.2 (List.prefix_append _ _)
    rw [List.cons_append, afterFirst?, ← List.cons_append, if_pos hp, List.drop_left]

/-- The first mark of a text is the one that no other precedes. -/
theorem afterFirst?_marked (hm : caret ∉ m) {before : List Char} (h : ¬ caret :: m <:+: before)
    (rest : List Char) :
    afterFirst? (caret :: m) (before ++ (caret :: m ++ rest)) = some rest := by
  rw [List.cons_append, afterFirst?_caret hm, afterFirst?_eq_none h, Option.map_none,
    Option.none_or, ← List.cons_append, afterFirst?_append (List.cons_ne_nil caret m)]

/-- Nothing shorter than a mark is both a start and an end of it. -/
theorem eq_nil_of_suffix (hm : caret ∉ m) {u v : List Char} (hv : v ≠ [])
    (hmark : caret :: m = v ++ u) (hsuf : v <:+ caret :: m) : u = [] := by
  obtain ⟨c, v, rfl⟩ := List.exists_cons_of_ne_nil hv
  rw [List.cons_append, List.cons.injEq] at hmark
  obtain ⟨rfl, hmv⟩ := hmark
  rcases List.suffix_cons_iff.1 hsuf with heq | hsuf
  · rw [List.cons.injEq, hmv] at heq
    exact List.self_eq_append_right.1 heq.2
  · exact absurd (hsuf.subset List.mem_cons_self) hm

/-- The last mark of a text is the one that no other follows. -/
theorem beforeLast?_marked (hm : caret ∉ m) {rest : List Char} (h : ¬ caret :: m <:+: rest)
    (cs : List Char) : beforeLast? (caret :: m) (cs ++ (caret :: m ++ rest)) = some cs := by
  have hcut : afterFirst? (caret :: m).reverse (rest.reverse ++ (caret :: m).reverse) =
      ((afterFirst? (caret :: m).reverse rest.reverse).map (· ++ (caret :: m).reverse)).or
        (afterFirst? (caret :: m).reverse (caret :: m).reverse) :=
    afterFirst?_append_or fun u v hu hv huv _ hpre => by
      rw [List.reverse_eq_iff, List.reverse_append] at huv
      rw [← List.reverse_suffix, List.reverse_reverse] at hpre
      exact hu (List.reverse_eq_nil_iff.1
        (eq_nil_of_suffix hm (List.reverse_ne_nil_iff.2 hv) huv hpre))
  have hnone : afterFirst? (caret :: m).reverse rest.reverse = none :=
    afterFirst?_eq_none fun hr => h (List.reverse_infix.1 hr)
  have hself : afterFirst? (caret :: m).reverse (caret :: m).reverse = some [] := by
    have hne : (caret :: m).reverse ≠ [] := by simp
    simpa only [List.append_nil] using afterFirst?_append hne []
  have hstart : beforeLast? (caret :: m) (caret :: (m ++ rest)) = some [] := by
    rw [← List.cons_append, beforeLast?, List.reverse_append, hcut, hnone, hself]
    rfl
  rw [List.cons_append, beforeLast?_caret hm, hstart, Option.map_some, Option.some_or,
    List.append_nil]

/-- The body of a label is what stands between its marks, if there is no opening mark before them
and no closing mark after them. -/
theorem body_marked {before after : List Char} (hbefore : ¬ opening <:+: before)
    (hafter : ¬ closing <:+: after) (cs : List Char) :
    body (before ++ (opening ++ (cs ++ (closing ++ after)))) = cs := by
  have hA : caret ∉ ['X', 'A'] := by decide
  have hZ : caret ∉ ['X', 'Z'] := by decide
  have hfirst : afterFirst? opening (before ++ (opening ++ (cs ++ (closing ++ after)))) =
      some (cs ++ (closing ++ after)) := afterFirst?_marked hA hbefore _
  have hlast : beforeLast? closing (cs ++ (closing ++ after)) = some cs :=
    beforeLast?_marked hZ hafter cs
  rw [body, hfirst, Option.bind_some, hlast, Option.getD_some]

end LabelRaster.Command

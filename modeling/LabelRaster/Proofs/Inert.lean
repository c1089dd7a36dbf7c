import LabelRaster.Proofs.History
import LabelRaster.Proofs.Marks

/-!
# Fragments that say nothing

A label may hold commands that no reader of this library supports. Such a fragment can
stand between any two carets, inside or outside the marks, without changing what is read:
it is one more fragment of the body, or lies outside it (`splitOn_body_insert`), and a
command that asks for nothing leaves the layout as it is.
-/

namespace LabelRaster

namespace Command

variable {m : List Char}

/-- A caret and a fragment that does not begin like the mark hold no mark. -/
theorem not_infix_caret_cons {j : List Char} (hj : caret ∉ j) (hmj : ¬ m <+: j) :
    ¬ caret :: m <:+: caret :: j := by
  intro h
  rcases List.infix_cons_iff.1 h with hp | hi
  · exact hmj (List.cons_prefix_cons.1 hp).2
  · exact hj (hi.subset List.mem_cons_self)

/-! ## The body of a label -/

/-- Whether `t` is `s` with one more fragment, `j`, in front of one of its carets or at its end. -/
def Inserted (j s t : List Char) : Prop :=
  ∃ x y, s = x ++ y ∧ t = x ++ caret :: (j ++ y) ∧ (y = [] ∨ ∃ z, y = caret :: z)

/-- One more fragment in a text is one more fragment of its body, or lies outside the body. -/
theorem body_insert {j : List Char} (hj : caret ∉ j) (hA : ¬ ['X', 'A'] <+: j)
    (hZ : ¬ ['X', 'Z'] <+: j) (a b : List Char) :
    body (a ++ caret :: (j ++ caret :: b)) = body (a ++ caret :: b) ∨
      Inserted j (body (a ++ caret :: b)) (body (a ++ caret :: (j ++ caret :: b))) := by
  have hwhole : Inserted j (a ++ caret :: b) (a ++ caret :: (j ++ caret :: b)) :=
    ⟨a, caret :: b, rfl, rfl, .inr ⟨b, rfl⟩⟩
  have hmA : caret ∉ ['X', 'A'] := by decide
  have hmZ : caret ∉ ['X', 'Z'] := by decide
  have hopen : afterFirst? opening (caret :: (j ++ caret :: b)) =
      afterFirst? opening (caret :: b) := by
    have h := afterFirst?_caret hmA (caret :: j) b
    rw [afterFirst?_eq_none (not_infix_caret_cons hj hA)] at h
    exact h
  have hclose : beforeLast? closing (caret :: (j ++ caret :: b)) =
      (beforeLast? closing (caret :: b)).map (caret :: j ++ ·) := by
    have h := beforeLast?_caret hmZ (caret :: j) b
    rw [beforeLast?_eq_none (not_infix_caret_cons hj hZ), Option.or_none] at h
    exact h
  have hfirst (c : List Char) : afterFirst? opening (a ++ caret :: c) =
      ((afterFirst? opening a).map (· ++ caret :: c)).or (afterFirst? opening (caret :: c)) :=
    afterFirst?_caret hmA a c
  rw [body, body, hfirst, hfirst, hopen]
  cases afterFirst? opening a with
  | none =>
    -- The label begins after the fragment.
    rw [Option.map_none, Option.map_none, Option.none_or]
    cases (afterFirst? opening (caret :: b)).bind (beforeLast? closing) with
    | some s => exact .inl rfl
    | none => exact .inr hwhole
  | some r =>
    have hlast (c : List Char) : beforeLast? closing (r ++ caret :: c) =
        ((beforeLast? closing (caret :: c)).map (r ++ ·)).or (beforeLast? closing r) :=
      beforeLast?_caret hmZ r c
    simp only [Option.map_some, Option.some_or, Option.bind_some]
    rw [hlast, hlast, hclose]
    cases hb : beforeLast? closing (caret :: b) with
    | some y =>
      -- The label ends after the fragment.
      refine .inr ⟨r, y, by simp, by simp, ?_⟩
      obtain ⟨rest, hrest⟩ := append_of_beforeLast? hb
      cases y with
      | nil => exact .inl rfl
      | cons c y =>
        rw [List.cons_append, List.cons_append, List.cons.injEq] at hrest
        exact .inr ⟨y, by rw [hrest.1]⟩
    | none =>
      -- The label ends before the fragment, or it has no end.
      rw [Option.map_none, Option.map_none, Option.none_or]
      cases beforeLast? closing r with
      | some s => exact .inl rfl
      | none => exact .inr hwhole

/-- One more fragment in a text is one more among the fragments of its body, or none of them. -/
theorem splitOn_body_insert {j : List Char} (hj : caret ∉ j) (hA : ¬ ['X', 'A'] <+: j)
    (hZ : ¬ ['X', 'Z'] <+: j) (a b : List Char) :
    ∃ fs gs, (body (a ++ caret :: b)).splitOn caret = fs ++ gs ∧
      ((body (a ++ caret :: (j ++ caret :: b))).splitOn caret = fs ++ gs ∨
        (body (a ++ caret :: (j ++ caret :: b))).splitOn caret = fs ++ j :: gs) := by
  rcases body_insert hj hA hZ a b with h | ⟨x, y, hs, ht, rfl | ⟨z, rfl⟩⟩
  · exact ⟨_, [], (List.append_nil _).symm, .inl (by rw [h, List.append_nil])⟩
  · refine ⟨x.splitOn caret, [], by rw [hs, List.append_nil, List.append_nil], .inr ?_⟩
    rw [ht, List.append_nil, List.splitOn_append_cons_self, List.splitOn_eq_singleton hj]
  · refine ⟨x.splitOn caret, z.splitOn caret, by rw [hs, List.splitOn_append_cons_self], .inr ?_⟩
    rw [ht, List.splitOn_append_cons_self, List.splitOn_append_cons_self_of_not_mem hj]

/-! ## Commands that ask for nothing -/

/-- The codes that a label understands, besides those that choose a font. -/
def supported : List String :=
  ["LH", "FO", "PW", "CF", "BY", "BC", "BQ", "GB", "GF", "FD", "FS"]

theorem ofCommand_eq_ignored {c : Command} (hc : c.code ∉ supported) (hf : ¬ c.IsFont) :
    Directive.ofCommand c = .ignored := by
  unfold Directive.ofCommand
  split
  case h_12 => exact if_neg hf
  all_goals
    rename_i h
    rw [h] at hc
    exact absurd (by decide) hc

end Command

namespace Layout

/-- A directive that asks for nothing leaves what a label places as it is. -/
theorem run_insert_ignored (s : Layout) (ds es : List Directive) :
    s.run (ds ++ .ignored :: es) = s.run (ds ++ es) := by
  rw [run_append, run_append, run_cons]
  rfl

end Layout

/-- Whether a fragment between two carets says nothing: it is no mark, and without the blanks at
its ends it is too short for a command, or its code is not supported. -/
structure Command.IsInert (fragment : List Char) : Prop where
  no_caret : caret ∉ fragment
  no_opening : ¬ ['X', 'A'] <+: fragment
  no_closing : ¬ ['X', 'Z'] <+: fragment
  unsupported : (Text.trim fragment).length < 2 ∨
    String.ofList ((Text.trim fragment).take 2) ∉ supported ∧
      (Text.trim fragment).head? ≠ some 'A'

theorem Command.IsInert.ofCommand_eq_ignored {fragment : List Char} (h : IsInert fragment)
    {c : Command} (hc : ofFragment? fragment = some c) : Directive.ofCommand c = .ignored := by
  rcases h.unsupported with hshort | ⟨hcode, hfont⟩
  · rw [ofFragment?_eq_none_iff.2 hshort] at hc
    cases hc
  · unfold ofFragment? at hc
    split at hc
    · rename_i a b arg htrim
      cases hc
      rw [htrim] at hcode hfont
      exact Command.ofCommand_eq_ignored hcode (by simpa [IsFont] using hfont)
    · cases hc

namespace Document

theorem ofDirectives_insert_ignored (ds es : List Directive) :
    ofDirectives (ds ++ .ignored :: es) = ofDirectives (ds ++ es) := by
  rw [ofDirectives, ofDirectives, Layout.run_insert_ignored]

/-- A fragment that says nothing may stand at any caret of a text: inside or outside the marks of
the label, with marks or without. -/
theorem ofText_insert {j : String} (hj : Command.IsInert j.toList) (a b : String) :
    ofText (a ++ "^" ++ j ++ "^" ++ b) = ofText (a ++ "^" ++ b) := by
  have hs : (a ++ "^" ++ b).toList = a.toList ++ Command.caret :: b.toList := by
    simp [Command.caret]
  have ht : (a ++ "^" ++ j ++ "^" ++ b).toList =
      a.toList ++ Command.caret :: (j.toList ++ Command.caret :: b.toList) := by
    simp [Command.caret]
  obtain ⟨fs, gs, hfs, h | h⟩ :=
    Command.splitOn_body_insert hj.no_caret hj.no_opening hj.no_closing a.toList b.toList
  · rw [ofText, ofText, Command.ofText, Command.ofText, hs, ht, h, hfs]
  · rw [ofText, ofText, Command.ofText, Command.ofText, hs, ht, h, hfs, ofCommands, ofCommands,
      List.filterMap_append, List.filterMap_append, List.filterMap_cons, List.map_append,
      List.map_append]
    cases hc : Command.ofFragment? j.toList with
    | none => rfl
    | some c =>
      rw [List.map_cons, hj.ofCommand_eq_ignored hc, ofDirectives_insert_ignored]

/-- A comment with the code of a closing mark, behind a blank, does not end the label. -/
theorem ofText_insert_comment :
    let a := "^XA^FO5,6^FDab"
    let j := " XZ,no mark"
    let b := "FS^XZ"
    Command.IsInert j.toList ∧
      ofText (a ++ "^" ++ j ++ "^" ++ b) = ofText (a ++ "^" ++ b) ∧
      ofText (a ++ "^" ++ b) = ⟨[.text ⟨⟨5, 6⟩, "sans-serif", 16, .normal, "ab"⟩], none⟩ := by
  intro a j b
  have hj : Command.IsInert j.toList := ⟨by decide, by decide, by decide, by decide⟩
  exact ⟨hj, ofText_insert hj a b, by decide +kernel⟩

end Document

end LabelRaster

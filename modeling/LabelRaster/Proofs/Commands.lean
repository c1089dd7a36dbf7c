import LabelRaster.Label.Script
import LabelRaster.Proofs.Marks

/-!
# Commands written and read back

A text writes some commands if each of them stands after a caret and between blanks.
Fragments that are too short for a command may stand among them, so that a list of
commands can be written in many ways (`Writes`). All of them are read alike, between the
marks of a label (`ofText_marked`) and with any text around these (`ofText_of_writes`).
-/

namespace LabelRaster.Command

/-- Whether a command has a full code, holds no caret, and is not blank at either end. -/
structure WellFormed (c : Command) : Prop where
  code_length : c.code.toList.length = 2
  caret_code : caret ∉ c.code.toList
  caret_arg : caret ∉ c.arg.toList
  head_blank : ∀ a ∈ (c.code ++ c.arg).toList.head?, Text.isBlank a = false
  last_blank : ∀ a ∈ (c.code ++ c.arg).toList.getLast?, Text.isBlank a = false

/-- Whether a fragment is too short for a command: besides blanks it has at most one character. -/
structure IsShort (fragment : List Char) : Prop where
  no_caret : caret ∉ fragment
  count_le : fragment.countP (!Text.isBlank ·) ≤ 1

/-- Whether a text writes some commands: each of them after a caret and between blanks, with
fragments that are too short for a command anywhere among them. -/
inductive Writes : List Char → List Command → Prop where
  | nil : Writes [] []
  | command (before after : List Char) {text : List Char} {c : Command} {cs : List Command}
      (hc : c.WellFormed) (hbefore : ∀ a ∈ before, Text.isBlank a = true)
      (hafter : ∀ a ∈ after, Text.isBlank a = true) (htext : Writes text cs) :
      Writes (caret :: (before ++ (c.code ++ c.arg).toList ++ after ++ text)) (c :: cs)
  | short (fragment : List Char) {text : List Char} {cs : List Command}
      (hshort : IsShort fragment) (htext : Writes text cs) :
      Writes (caret :: (fragment ++ text)) cs

/-! ## Fragments -/

theorem WellFormed.caret_text {c : Command} (h : c.WellFormed) :
    caret ∉ (c.code ++ c.arg).toList := by
  rw [String.toList_append, List.mem_append]
  exact not_or.2 ⟨h.caret_code, h.caret_arg⟩

theorem caret_not_mem_of_blank {cs : List Char} (h : ∀ a ∈ cs, Text.isBlank a = true) :
    caret ∉ cs := by
  intro hmem
  have hcaret : Text.isBlank caret = false := by decide
  rw [h caret hmem] at hcaret
  cases hcaret

/-- A command is read from its text and the blanks around it. -/
theorem WellFormed.ofFragment? {c : Command} (h : c.WellFormed) {before after : List Char}
    (hbefore : ∀ a ∈ before, Text.isBlank a = true)
    (hafter : ∀ a ∈ after, Text.isBlank a = true) :
    Command.ofFragment? (before ++ (c.code ++ c.arg).toList ++ after) = some c := by
  obtain ⟨a, b, hab⟩ := List.length_eq_two.1 h.code_length
  have hc : c.code = String.ofList [a, b] := by rw [← hab, String.ofList_toList]
  have htext : (c.code ++ c.arg).toList = a :: b :: c.arg.toList := by
    rw [String.toList_append, hab, List.cons_append, List.singleton_append]
  have hne : (c.code ++ c.arg).toList ≠ [] := htext ▸ List.cons_ne_nil _ _
  rw [Command.ofFragment?, Text.trim_between hne hbefore hafter h.head_blank h.last_blank, htext]
  simp only [String.ofList_toList, ← hc]

/-- What is left of a short fragment without its blanks is no command. -/
theorem IsShort.ofFragment? {fragment : List Char} (h : IsShort fragment) :
    Command.ofFragment? fragment = none := by
  rw [ofFragment?_eq_none_iff]
  by_contra hlong
  obtain ⟨a, b, r, htrim⟩ : ∃ a b r, Text.trim fragment = a :: b :: r := by
    match hf : Text.trim fragment with
    | [] => simp [hf] at hlong
    | [_] => simp [hf] at hlong
    | a :: b :: r => exact ⟨a, b, r, rfl⟩
  -- The first character that is left and the last one are not blank.
  have hfirst : Text.isBlank a = false := Text.head?_trim fragment a (by rw [htrim]; rfl)
  have hlast : Text.isBlank ((b :: r).getLast (List.cons_ne_nil b r)) = false := by
    refine Text.getLast?_trim fragment _ ?_
    rw [htrim, List.getLast?_cons_cons, List.getLast?_eq_some_getLast (List.cons_ne_nil b r),
      Option.mem_some]
  have hpos : 0 < (b :: r).countP (!Text.isBlank ·) :=
    List.countP_pos_iff.2 ⟨_, List.getLast_mem _, by rw [hlast]; rfl⟩
  have hle := (Text.trim_sublist fragment).countP_le (p := (!Text.isBlank ·))
  rw [htrim, List.countP_cons, hfirst] at hle
  have := h.count_le
  simp only [Bool.not_false, if_true] at hle
  omega

/-- A fragment between two carets is read as a well-formed command, if as any. -/
theorem wellFormed_of_ofFragment? {fragment : List Char} (hcaret : caret ∉ fragment) {c : Command}
    (h : Command.ofFragment? fragment = some c) : c.WellFormed := by
  have htext := code_append_arg h
  have hfree : caret ∉ c.code.toList ++ c.arg.toList := by
    rw [← String.toList_append, htext]
    exact fun hmem => hcaret ((Text.trim_sublist fragment).subset hmem)
  rw [List.mem_append, not_or] at hfree
  refine ⟨?_, hfree.1, hfree.2, ?_, ?_⟩
  · unfold Command.ofFragment? at h
    split at h
    · cases h
      simp
    · cases h
  · rw [htext]
    exact Text.head?_trim fragment
  · rw [htext]
    exact Text.getLast?_trim fragment

theorem not_mem_of_mem_splitOn {a : Char} {text fragment : List Char}
    (h : fragment ∈ text.splitOn a) : a ∉ fragment := by
  induction text generalizing fragment with
  | nil =>
    rw [List.splitOn_nil, List.mem_singleton] at h
    rw [h]
    exact List.not_mem_nil
  | cons c text ih =>
    rw [List.splitOn_cons_eq_if_modifyHead] at h
    split at h
    · rcases List.mem_cons.1 h with rfl | h
      · exact List.not_mem_nil
      · exact ih h
    · rename_i hc
      obtain ⟨f, fs, hfs⟩ := List.exists_cons_of_ne_nil (List.splitOn_ne_nil a text)
      rw [hfs] at h ih
      rcases List.mem_cons.1 h with rfl | h
      · have hf := ih List.mem_cons_self
        simp only [List.mem_cons, not_or]
        exact ⟨fun ha => hc (by rw [ha]; exact BEq.rfl), hf⟩
      · exact ih (List.mem_cons_of_mem f h)

/-- Every command that is read from a text is well formed. -/
theorem wellFormed_of_mem_ofText {text : String} {c : Command} (h : c ∈ ofText text) :
    c.WellFormed := by
  obtain ⟨fragment, hmem, hread⟩ := List.mem_filterMap.1 h
  exact wellFormed_of_ofFragment? (not_mem_of_mem_splitOn hmem) hread

/-! ## Texts -/

/-- The fragments of a text that writes some commands are read as those commands, after what is
read of the fragment in front of it. -/
theorem Writes.filterMap_splitOn {text : List Char} {cs : List Command} (h : Writes text cs)
    {lead : List Char} (hlead : caret ∉ lead) :
    ((lead ++ text).splitOn caret).filterMap ofFragment? = (ofFragment? lead).toList ++ cs := by
  induction h generalizing lead with
  | nil =>
    rw [List.append_nil, List.splitOn_eq_singleton hlead, List.append_nil]
    cases hf : ofFragment? lead <;> simp [hf]
  | @command before after text c cs hc hbefore hafter htext ih =>
    have hfragment : caret ∉ before ++ (c.code ++ c.arg).toList ++ after := by
      simp only [List.mem_append, not_or]
      exact ⟨⟨caret_not_mem_of_blank hbefore, hc.caret_text⟩, caret_not_mem_of_blank hafter⟩
    rw [List.splitOn_append_cons_self_of_not_mem hlead, List.filterMap_cons, ih hfragment,
      hc.ofFragment? hbefore hafter]
    cases ofFragment? lead <;> rfl
  | short fragment hshort htext ih =>
    rw [List.splitOn_append_cons_self_of_not_mem hlead, List.filterMap_cons, ih hshort.no_caret,
      hshort.ofFragment?]
    cases ofFragment? lead <;> rfl

/-- Commands written between the marks of a label are read back. -/
theorem ofText_marked {before lead text after : List Char} {cs : List Command}
    (hbefore : ¬ opening <:+: before) (hafter : ¬ closing <:+: after) (hlead : IsShort lead)
    (h : Writes text cs) :
    ofText (String.ofList (before ++ (opening ++ (lead ++ text ++ (closing ++ after))))) = cs := by
  rw [ofText, String.toList_ofList, body_marked hbefore hafter,
    h.filterMap_splitOn hlead.no_caret, hlead.ofFragment?, Option.toList_none, List.nil_append]

theorem isShort_nil : IsShort [] := ⟨List.not_mem_nil, by decide⟩

theorem writes_flatMap_script {cs : List Command} (h : ∀ c ∈ cs, c.WellFormed) :
    Writes (cs.flatMap script) cs := by
  induction cs with
  | nil => exact .nil
  | cons c cs ih =>
    rw [List.forall_mem_cons] at h
    simpa [script] using Writes.command [] [] h.1 (by simp) (by simp) (ih h.2)

/-- Well-formed commands are read back from the text that they are written in. -/
theorem ofText_flatMap {cs : List Command} (h : ∀ c ∈ cs, c.WellFormed) :
    ofText (String.ofList (opening ++ cs.flatMap script ++ closing)) = cs := by
  have hopening : ¬ opening <:+: [] := by decide
  have hclosing : ¬ closing <:+: [] := by decide
  simpa only [List.nil_append, List.append_nil, List.append_assoc] using
    ofText_marked hopening hclosing isShort_nil (writes_flatMap_script h)

/-- What is read from any text is well formed, and what is written between the marks of a label is
read back: no command is lost, split, merged or moved, whatever stands around the label. -/
theorem ofText_of_writes :
    (∀ text, ∀ c ∈ ofText text, c.WellFormed) ∧
    ∀ (before lead text after : String) (cs : List Command), ¬ opening <:+: before.toList →
      ¬ closing <:+: after.toList → IsShort lead.toList → Writes text.toList cs →
        ofText (before ++ "^XA" ++ lead ++ text ++ "^XZ" ++ after) = cs := by
  refine ⟨fun text c hc => wellFormed_of_mem_ofText hc, ?_⟩
  intro before lead text after cs hbefore hafter hlead htext
  have hlabel : before ++ "^XA" ++ lead ++ text ++ "^XZ" ++ after =
      String.ofList (before.toList ++
        (opening ++ (lead.toList ++ text.toList ++ (closing ++ after.toList)))) := by
    rw [← String.toList_inj]
    simp [opening, closing]
  rw [hlabel, ofText_marked hbefore hafter hlead htext]

/-- Marks among the commands and around the label, a wide blank, and a lone character after a
caret. -/
theorem ofText_of_writes_nested :
    let before := "^XZ^FDz^X"
    let lead := "\n"
    let text := "^ XZ\n^^ x^FD\u3000é,\u3000^XA"
    let after := "XZ^XA^FS"
    let cs : List Command := [⟨"XZ", ""⟩, ⟨"FD", "\u3000é,"⟩, ⟨"XA", ""⟩]
    (¬ opening <:+: before.toList ∧ ¬ closing <:+: after.toList ∧ IsShort lead.toList) ∧
      Writes text.toList cs ∧ ⟨"XZ", ""⟩ ∈ cs ∧
      ofText (before ++ "^XA" ++ lead ++ text ++ "^XZ" ++ after) = cs ∧
      ∀ c ∈ cs, c.WellFormed := by
  intro before lead text after cs
  have hbefore : ¬ opening <:+: before.toList := by decide +kernel
  have hafter : ¬ closing <:+: after.toList := by decide +kernel
  have hlead : IsShort lead.toList := ⟨by decide, by decide⟩
  have hdata : WellFormed ⟨"FD", "\u3000é,"⟩ :=
    ⟨by decide, by decide, by decide, by simp [Text.isBlank], by simp [Text.isBlank]⟩
  have hmark {code : String} (h : code = "XZ" ∨ code = "XA") : WellFormed ⟨code, ""⟩ := by
    rcases h with rfl | rfl <;>
      exact ⟨by decide, by decide, by decide, by simp [Text.isBlank], by simp [Text.isBlank]⟩
  have hblanks : ∀ a ∈ [' ', '\n', '\u3000'], Text.isBlank a = true := by simp [Text.isBlank]
  simp only [List.forall_mem_cons] at hblanks
  obtain ⟨hspace, hnewline, hwide, hnone⟩ := hblanks
  have hwrites :=
    Writes.command [' '] ['\n'] (hmark (.inl rfl)) (List.forall_mem_singleton.2 hspace)
      (List.forall_mem_singleton.2 hnewline) <|
    .short [] isShort_nil <|
    .short [' ', 'x'] ⟨by decide, by decide⟩ <|
    .command [] ['\u3000'] hdata hnone (List.forall_mem_singleton.2 hwide) <|
    .command [] [] (hmark (.inr rfl)) hnone hnone .nil
  have htext : Writes text.toList cs := by simpa [text, cs, caret] using hwrites
  have hread := ofText_of_writes.2 before lead text after cs hbefore hafter hlead htext
  refine ⟨⟨hbefore, hafter, hlead⟩, htext, List.mem_cons_self, hread, ?_⟩
  intro c hc
  exact ofText_of_writes.1 _ c (hread ▸ hc)

end LabelRaster.Command

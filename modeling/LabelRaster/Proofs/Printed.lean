import LabelRaster.Json.Reader
import LabelRaster.Json.Value

/-!
# The text of a JSON value

A text tells the value that it was printed from, whatever the value holds: it shows where
each part of it ends. A string ends at the first quote that is not escaped, a number
before the first character that no numeral has, and what stands between the items of an
array or object is no part of them. The value is told by the text in front of any other
text that cannot go on with a number (`print_append_inj`), by induction on what it holds.
-/

namespace LabelRaster.Json

/-! ## Strings -/

theorem hexValue?_hexDigit (n : Nat) : hexValue? (hexDigit n) = some (n % 16) := by
  have h : ∀ d : Fin 16, hexValue? (Nat.digitChar d) = some d := by decide
  exact h ⟨n % 16, Nat.mod_lt _ (by decide)⟩

/-- A control character is told by its number, without a second one behind it. -/
theorem ofNumber_of_lt {n : Nat} (h : n < 0x20) : ofNumber none n = .ok (.inl (Char.ofNat n)) := by
  rw [ofNumber, if_neg (by omega), if_neg (by omega)]

/-- One character of a string is read as it was written. -/
theorem stringFrom_escape (c : Char) (read rest : List Char) :
    stringFrom true .plain read (escape c ++ rest) = stringFrom true .plain (c :: read) rest := by
  unfold escape
  split
  case h_8 hquote hbackslash _ _ _ _ _ =>
    split
    · -- A control without a short form is given by its number, which starts with two zeros.
      rename_i hcontrol
      have hnumber : 16 * (c.toNat / 16 % 16) + c.toNat % 16 = c.toNat := by omega
      have hzero : hexValue? '0' = some 0 := by decide
      simp [stringFrom, hzero, hexValue?_hexDigit, hnumber, ofNumber_of_lt hcontrol,
        Char.ofNat_toNat]
    · rename_i hcontrol
      rw [List.singleton_append, stringFrom, if_neg hquote, if_neg hbackslash, if_neg hcontrol]
  all_goals rfl

/-- The characters of a string are read as they were written, up to its closing quote. -/
theorem stringFrom_flatMap_escape (cs read rest : List Char) :
    stringFrom true .plain read (cs.flatMap escape ++ '"' :: rest) =
      .ok (read.reverse ++ cs, rest) := by
  induction cs generalizing read with
  | nil => rw [List.flatMap_nil, List.nil_append, List.append_nil, stringFrom, if_pos rfl]
  | cons c cs ih =>
    rw [List.flatMap_cons, List.append_assoc, stringFrom_escape, ih, List.reverse_cons,
      List.append_assoc, List.singleton_append]

theorem quote_append_inj {s t : String} {rest rest' : List Char}
    (h : quote s ++ rest = quote t ++ rest') : s = t ∧ rest = rest' := by
  simp only [quote, List.cons_append, List.append_assoc, List.nil_append, List.cons.injEq,
    true_and] at h
  have hread := congrArg (stringFrom true .plain []) h
  simp only [stringFrom_flatMap_escape, Except.ok.injEq, Prod.mk.injEq, List.reverse_nil,
    List.nil_append] at hread
  exact ⟨String.toList_inj.1 hread.1, hread.2⟩

/-! ## Numbers -/

/-- Whether a numeral can hold a character. -/
def isNumeral (c : Char) : Bool :=
  c.isDigit || c == '-' || c == '+' || c == '.' || c == 'e' || c == 'E'

/-- What cannot go on with a number. -/
def Ends (rest : List Char) : Prop := ∀ c ∈ rest.head?, isNumeral c = false

theorem Ends.cons {c : Char} (h : isNumeral c = false) (rest : List Char) : Ends (c :: rest) := by
  rintro _ ⟨⟩
  exact h

theorem ends_nil : Ends [] := by
  intro c hc
  cases hc

/-! ## Items -/

/-- A style breaks lines with blanks only. -/
def Style.IsBlank (style : Style) : Prop := ∀ depth, ∀ c ∈ style.line depth, isBlank c = true

theorem isBlank_pretty : pretty.IsBlank := by
  intro depth c hc
  rcases List.mem_cons.1 hc with rfl | hc
  · rfl
  · rw [List.eq_of_mem_replicate hc]
    rfl

theorem isNumeral_of_isBlank {c : Char} (h : isBlank c = true) : isNumeral c = false := by
  simp only [isBlank, Bool.or_eq_true, beq_iff_eq] at h
  rcases h with ((rfl | rfl) | rfl) | rfl <;> rfl

theorem ne_comma_of_isBlank {c : Char} (h : isBlank c = true) : c ≠ ',' := by
  rintro rfl
  exact Bool.false_ne_true h

section Items

variable {α : Type} {p : α → List Char} {as bs : List α} {line close rest rest' : List Char}

/-- Items that are printed by `p` are told apart in front of anything that ends a number. -/
def ToldApart (p : α → List Char) (as bs : List α) : Prop :=
  ∀ a ∈ as, ∀ b ∈ bs, ∀ rest rest', Ends rest → Ends rest' → p a ++ rest = p b ++ rest' →
    a = b ∧ rest = rest'

theorem ToldApart.tail {a b : α} (h : ToldApart p (a :: as) (b :: bs)) : ToldApart p as bs :=
  fun c hc d hd => h c (List.mem_cons_of_mem _ hc) d (List.mem_cons_of_mem _ hd)

/-- What stands behind the last item of an array or object. -/
def Closes (close : List Char) : Prop :=
  ∃ c cs, close = c :: cs ∧ c ≠ ',' ∧ isNumeral c = false

theorem Closes.append (h : Closes close) (rest : List Char) : Closes (close ++ rest) := by
  obtain ⟨c, cs, rfl, hcomma, hnumeral⟩ := h
  exact ⟨c, cs ++ rest, rfl, hcomma, hnumeral⟩

theorem Closes.ne_comma (h : Closes close) (cs : List Char) : close ≠ ',' :: cs := by
  obtain ⟨c, cs', rfl, hcomma, -⟩ := h
  rintro ⟨⟩
  exact hcomma rfl

/-- The items behind the first one, each with a comma before it. -/
def separated (line : List Char) (items : List (List Char)) : List Char :=
  items.flatMap fun i => ',' :: line ++ i

theorem separated_map_cons (a : α) (as : List α) (rest : List Char) :
    separated line ((a :: as).map p) ++ rest =
      ',' :: (line ++ (p a ++ (separated line (as.map p) ++ rest))) := by
  simp only [separated, List.map_cons, List.flatMap_cons, List.cons_append, List.append_assoc]

/-- Neither a comma nor a closing bracket goes on with a number. -/
theorem ends_separated (h : Closes close) (items : List (List Char)) :
    Ends (separated line items ++ close) := by
  cases items with
  | nil =>
    obtain ⟨c, cs, rfl, -, hnumeral⟩ := h
    exact .cons hnumeral cs
  | cons i items => exact .cons rfl _

/-- Items that are told apart one by one are told apart as a list, up to what closes it. -/
theorem separated_append_inj (hp : ToldApart p as bs) (hclose : Closes close)
    (h : separated line (as.map p) ++ (close ++ rest) =
      separated line (bs.map p) ++ (close ++ rest')) : as = bs ∧ rest = rest' := by
  induction as generalizing bs with
  | nil =>
    cases bs with
    | nil => exact ⟨rfl, List.append_cancel_left h⟩
    | cons b bs =>
      rw [separated_map_cons] at h
      exact ((hclose.append rest).ne_comma _ h).elim
  | cons a as ih =>
    cases bs with
    | nil =>
      rw [separated_map_cons] at h
      exact ((hclose.append rest').ne_comma _ h.symm).elim
    | cons b bs =>
      rw [separated_map_cons, separated_map_cons] at h
      obtain ⟨rfl, htail⟩ := hp a List.mem_cons_self b List.mem_cons_self _ _
        (ends_separated (hclose.append rest) _) (ends_separated (hclose.append rest') _)
        (List.append_cancel_left (List.cons.inj h).2)
      obtain ⟨rfl, hrest⟩ := ih hp.tail htail
      exact ⟨rfl, hrest⟩

variable {style : Style} {depth : Nat} {opening closing : Char}

theorem enclose_cons_append (a : α) (as : List α) (rest : List Char) :
    style.enclose depth opening closing ((a :: as).map p) ++ rest =
      opening :: (style.line (depth + 1) ++ (p a ++ (separated (style.line (depth + 1)) (as.map p) ++
        (style.line depth ++ [closing] ++ rest)))) := by
  simp only [Style.enclose, separated, List.map_cons, List.cons_append, List.append_assoc]

theorem closes_line (hstyle : style.IsBlank) (hcomma : closing ≠ ',')
    (hnumeral : isNumeral closing = false) : Closes (style.line depth ++ [closing]) := by
  cases hline : style.line depth with
  | nil => exact ⟨closing, [], rfl, hcomma, hnumeral⟩
  | cons c cs =>
    have hblank : isBlank c = true := hstyle depth c (hline ▸ List.mem_cons_self)
    exact ⟨c, cs ++ [closing], rfl, ne_comma_of_isBlank hblank, isNumeral_of_isBlank hblank⟩

/-- An array or object with an item does not end where an empty one does. -/
theorem line_append_ne (hstyle : style.IsBlank) (hblank : isBlank closing = false) {c : Char}
    (hc : c ≠ closing) (cs rest : List Char) : style.line depth ++ c :: cs ≠ closing :: rest := by
  cases hline : style.line depth with
  | nil =>
    rintro ⟨⟩
    exact hc rfl
  | cons d ds =>
    rintro ⟨⟩
    rw [hstyle depth closing (hline ▸ List.mem_cons_self)] at hblank
    exact Bool.false_ne_true hblank.symm

/-- Items between brackets are told apart if each of them is and none starts like a closing
bracket. -/
theorem enclose_append_inj (hstyle : style.IsBlank) (hcomma : closing ≠ ',')
    (hnumeral : isNumeral closing = false) (hblank : isBlank closing = false)
    (hfirst : ∀ a, a ∈ as ∨ a ∈ bs → ∃ c cs, p a = c :: cs ∧ c ≠ closing) (hp : ToldApart p as bs)
    (h : style.enclose depth opening closing (as.map p) ++ rest =
      style.enclose depth opening closing (bs.map p) ++ rest') : as = bs ∧ rest = rest' := by
  -- An item stands where the bracket would close if there were none.
  have hempty : ∀ a, a ∈ as ∨ a ∈ bs → ∀ (as' : List α) (rest rest' : List Char),
      style.enclose depth opening closing ((a :: as').map p) ++ rest ≠
        opening :: closing :: rest' := by
    intro a ha as' rest rest' h
    obtain ⟨c, cs, hc, hne⟩ := hfirst a ha
    rw [enclose_cons_append, hc] at h
    exact line_append_ne hstyle hblank hne _ _ (List.cons.inj h).2
  match as, bs with
  | [], [] => exact ⟨rfl, (List.cons.inj (List.cons.inj h).2).2⟩
  | [], b :: bs => exact (hempty b (.inr List.mem_cons_self) bs rest' rest h.symm).elim
  | a :: as, [] => exact (hempty a (.inl List.mem_cons_self) as rest rest' h).elim
  | a :: as, b :: bs =>
    have hclose : Closes (style.line depth ++ [closing]) := closes_line hstyle hcomma hnumeral
    rw [enclose_cons_append, enclose_cons_append] at h
    -- With a comma in place of the opening bracket, the first item is one more behind a comma.
    have hitems := congrArg (',' :: ·) (List.cons.inj h).2
    simp only [← separated_map_cons] at hitems
    exact separated_append_inj hp hclose hitems

end Items

/-! ## Values -/

/-- Whether the numbers in a value are numerals. -/
inductive Value.WellFormed : Value → Prop where
  | null : WellFormed .null
  | bool (b : Bool) : WellFormed (.bool b)
  | number {numeral : List Char} (hne : numeral ≠ []) (h : ∀ c ∈ numeral, isNumeral c = true) :
    WellFormed (.number numeral)
  | string (s : String) : WellFormed (.string s)
  | array {items : List Value} (h : ∀ v ∈ items, WellFormed v) : WellFormed (.array items)
  | object {members : List (String × Value)} (h : ∀ m ∈ members, WellFormed m.2) :
    WellFormed (.object members)

/-- The kinds of values. -/
inductive Kind where
  | null
  | bool
  | number
  | string
  | array
  | object

/-- The kind of a value, by the first character of its text. -/
def Kind.ofFirst : Char → Kind
  | 'n' => null
  | 't' => bool
  | 'f' => bool
  | '"' => string
  | '[' => array
  | '\x7b' => object
  | _ => number

/-- The kind of a value. -/
def Value.kind : Value → Kind
  | null => .null
  | bool _ => .bool
  | number _ => .number
  | string _ => .string
  | array _ => .array
  | object _ => .object

theorem Kind.ofFirst_of_isNumeral {c : Char} (h : isNumeral c = true) : ofFirst c = number := by
  unfold ofFirst
  split
  case h_7 => rfl
  all_goals exact absurd h (by decide)

section Values

variable {style : Style} {depth : Nat} {v w : Value} {rest rest' : List Char}

theorem printItems_eq_map (items : List Value) :
    printItems style depth items = items.map (Value.print style depth) := by
  induction items with
  | nil => rw [printItems, List.map_nil]
  | cons v items ih => rw [printItems, ih, List.map_cons]

theorem printMembers_eq_map (members : List (String × Value)) :
    printMembers style depth members = members.map (printMember style depth) := by
  induction members with
  | nil => rw [printMembers, List.map_nil]
  | cons m members ih => rw [printMembers, ih, List.map_cons]

theorem Value.WellFormed.exists_print (hv : v.WellFormed) (style : Style) (depth : Nat) :
    ∃ c cs, v.print style depth = c :: cs ∧ c ≠ ']' ∧ Kind.ofFirst c = v.kind := by
  cases hv with
  | null => exact ⟨_, _, rfl, by decide, rfl⟩
  | bool b => cases b <;> exact ⟨_, _, rfl, by decide, rfl⟩
  | number hne h =>
    obtain ⟨c, cs, rfl⟩ := List.exists_cons_of_ne_nil hne
    have hc := h c List.mem_cons_self
    refine ⟨c, cs, rfl, ?_, Kind.ofFirst_of_isNumeral hc⟩
    rintro rfl
    exact Bool.false_ne_true hc
  | string s => exact ⟨_, _, rfl, by decide, rfl⟩
  | @array items h => cases items <;> exact ⟨_, _, rfl, by decide, rfl⟩
  | @object members h => cases members <;> exact ⟨_, _, rfl, by decide, rfl⟩

/-- The first character tells the kind of a value. -/
theorem kind_eq (hv : v.WellFormed) (hw : w.WellFormed)
    (h : v.print style depth ++ rest = w.print style depth ++ rest') : v.kind = w.kind := by
  obtain ⟨c, cs, hc, -, hkind⟩ := hv.exists_print style depth
  obtain ⟨d, ds, hd, -, hkind'⟩ := hw.exists_print style depth
  rw [hc, hd] at h
  rw [← hkind, ← hkind', (List.cons.inj h).1]

theorem number_append_inj {numeral numeral' : List Char}
    (hv : (Value.number numeral).WellFormed) (hw : (Value.number numeral').WellFormed)
    (hrest : Ends rest) (hrest' : Ends rest') (h : numeral ++ rest = numeral' ++ rest') :
    numeral = numeral' ∧ rest = rest' := by
  cases hv with
  | number _ hv =>
    cases hw with
    | number _ hw =>
      have hnumeral := congrArg (List.takeWhile isNumeral) h
      rw [Lists.takeWhile_run hv hrest, Lists.takeWhile_run hw hrest'] at hnumeral
      exact ⟨hnumeral, List.append_cancel_left (hnumeral ▸ h)⟩

/-- The name of a member is told by its quotes, and the value behind it as it is on its own. -/
theorem printMember_append_inj {m n : String × Value}
    (hvalue : ∀ rest rest', Ends rest → Ends rest' →
      m.2.print style depth ++ rest = n.2.print style depth ++ rest' → m.2 = n.2 ∧ rest = rest')
    (hrest : Ends rest) (hrest' : Ends rest')
    (h : printMember style depth m ++ rest = printMember style depth n ++ rest') :
    m = n ∧ rest = rest' := by
  obtain ⟨name, v⟩ := m
  obtain ⟨name', w⟩ := n
  rw [printMember, printMember] at h
  simp only [List.append_assoc] at h
  obtain ⟨rfl, hbehind⟩ := quote_append_inj h
  obtain ⟨hvw, hrest⟩ := hvalue rest rest' hrest hrest' (List.append_cancel_left hbehind)
  exact ⟨Prod.ext rfl hvw, hrest⟩

/-- An array is told by its text if its items are. -/
theorem array_append_inj (hstyle : style.IsBlank) {items items' : List Value}
    (hv : ∀ v ∈ items, v.WellFormed) (hw : ∀ v ∈ items', v.WellFormed)
    (hp : ToldApart (Value.print style (depth + 1)) items items')
    (h : (Value.array items).print style depth ++ rest =
      (Value.array items').print style depth ++ rest') : items = items' ∧ rest = rest' := by
  rw [Value.print, Value.print, printItems_eq_map, printItems_eq_map] at h
  refine enclose_append_inj hstyle (by decide) rfl rfl (fun v hv' => ?_) hp h
  obtain ⟨c, cs, hc, hne, -⟩ := (hv'.elim (hv v) (hw v)).exists_print style (depth + 1)
  exact ⟨c, cs, hc, hne⟩

theorem object_append_inj (hstyle : style.IsBlank) {members members' : List (String × Value)}
    (hp : ToldApart (printMember style (depth + 1)) members members')
    (h : (Value.object members).print style depth ++ rest =
      (Value.object members').print style depth ++ rest') : members = members' ∧ rest = rest' := by
  rw [Value.print, Value.print, printMembers_eq_map, printMembers_eq_map] at h
  refine enclose_append_inj hstyle (by decide) rfl rfl (fun m _ => ?_) hp h
  obtain ⟨name, v⟩ := m
  rw [printMember]
  exact ⟨'"', _, rfl, by decide⟩

/-- A value is told by its text in front of anything that ends a number. -/
theorem print_append_inj (hstyle : style.IsBlank) (hv : v.WellFormed) (hw : w.WellFormed)
    (hrest : Ends rest) (hrest' : Ends rest')
    (h : v.print style depth ++ rest = w.print style depth ++ rest') : v = w ∧ rest = rest' := by
  have hkind := kind_eq hv hw h
  induction hv generalizing w depth rest rest' with
  | null =>
    cases hw with
    | null => exact ⟨rfl, List.append_cancel_left h⟩
    | _ => cases hkind
  | bool b =>
    cases hw with
    | bool c =>
      -- The two words differ in their first letter.
      cases b <;> cases c <;> simp_all [Value.print]
    | _ => cases hkind
  | @number numeral hne hnumeral =>
    cases hw with
    | @number numeral' hne' hnumeral' =>
      obtain ⟨rfl, hrest⟩ :=
        number_append_inj (.number hne hnumeral) (.number hne' hnumeral') hrest hrest' h
      exact ⟨rfl, hrest⟩
    | _ => cases hkind
  | string s =>
    cases hw with
    | string t =>
      obtain ⟨rfl, hrest⟩ := quote_append_inj h
      exact ⟨rfl, hrest⟩
    | _ => cases hkind
  | @array items hitems ih =>
    cases hw with
    | @array items' hitems' =>
      have hp : ToldApart (Value.print style (depth + 1)) items items' :=
        fun a ha b hb _ _ hrest hrest' h =>
          ih a ha (hitems' b hb) hrest hrest' h (kind_eq (hitems a ha) (hitems' b hb) h)
      obtain ⟨rfl, hrest⟩ := array_append_inj hstyle hitems hitems' hp h
      exact ⟨rfl, hrest⟩
    | _ => cases hkind
  | @object members hmembers ih =>
    cases hw with
    | @object members' hmembers' =>
      have hp : ToldApart (printMember style (depth + 1)) members members' :=
        fun a ha b hb _ _ => printMember_append_inj fun _ _ hrest hrest' h =>
          ih a ha (hmembers' b hb) hrest hrest' h (kind_eq (hmembers a ha) (hmembers' b hb) h)
      obtain ⟨rfl, hrest⟩ := object_append_inj hstyle hp h
      exact ⟨rfl, hrest⟩
    | _ => cases hkind

end Values

/-- Equal texts are those of equal values. -/
theorem Value.toText_inj {style : Style} (hstyle : style.IsBlank) {v w : Value}
    (hv : v.WellFormed) (hw : w.WellFormed) : v.toText style = w.toText style ↔ v = w := by
  refine ⟨fun h => ?_, congrArg _⟩
  have hprint : v.print style 0 ++ [] = w.print style 0 ++ [] := by
    rw [List.append_nil, List.append_nil]
    exact String.ofList_inj.1 h
  exact (print_append_inj hstyle hv hw ends_nil ends_nil hprint).1

end LabelRaster.Json

import LabelRaster.Proofs.Printed

/-!
# Printed values read back

A reader takes a value off the front of a text: behind any blanks, and up to what cannot
go on with a number. Run on the text that a value was printed as, in a style that breaks
lines with blanks only, each reader gives the value back and stops where its text ends
(`Reader.Takes`). An object is taken member by member, in the order in which they stand
(`run_object`).
-/

namespace LabelRaster.Json

variable {α β : Type} {a b : α} {text rest : List Char}

/-! ## Steps of a reader -/

theorem run_pure (a : α) (text : List Char) : (pure a : Reader α).run text = .ok (a, text) := rfl

theorem run_bind {read : Reader α} {next : α → Reader β} (h : read.run text = .ok (a, rest)) :
    (read >>= next).run text = (next a).run rest := by
  rw [StateT.run_bind, h]
  rfl

theorem run_map {read : Reader α} (f : α → β) (h : read.run text = .ok (a, rest)) :
    (f <$> read).run text = .ok (f a, rest) := by
  rw [map_eq_pure_bind, run_bind h, run_pure]

theorem run_get (text : List Char) : (get : Reader (List Char)).run text = .ok (text, text) := rfl

theorem run_set (text text' : List Char) : (set text' : Reader PUnit).run text = .ok (⟨⟩, text') :=
  rfl

theorem run_liftM {x : Except Fault α} (h : x = .ok a) (text : List Char) :
    (liftM x : Reader α).run text = .ok (a, text) := by
  rw [h]
  rfl

theorem run_drop (c : Char) (rest : List Char) : drop.run (c :: rest) = .ok ((), rest) := rfl

/-- Nothing but blanks. -/
def Blanks (cs : List Char) : Prop := ∀ c ∈ cs, isBlank c = true

theorem blanks_nil : Blanks [] := List.forall_mem_nil _

variable {blanks : List Char}

/-- The next character is looked for behind any blanks, which are dropped. -/
theorem run_peek (h : Blanks blanks) {c : Char} (hc : isBlank c = false) (rest : List Char) :
    peek.run (blanks ++ c :: rest) = .ok (c, c :: rest) := by
  have hdrop : (blanks ++ c :: rest).dropWhile isBlank = c :: rest := by
    rw [List.dropWhile_append_of_pos h, List.dropWhile_cons_of_neg (by simp [hc])]
  rw [peek, run_bind (run_get _), run_bind (run_set _ _), hdrop, run_pure]

theorem run_peek_cons {c : Char} (hc : isBlank c = false) (rest : List Char) :
    peek.run (c :: rest) = .ok (c, c :: rest) :=
  run_peek blanks_nil hc rest

/-- A string is read up to the quote that closes it. -/
theorem run_string (s : String) (rest : List Char) :
    string.run (quote s ++ rest) = .ok (s, rest) := by
  have hchars : stringFrom true .plain [] (s.toList.flatMap escape ++ '"' :: rest) =
      .ok (s.toList, rest) := stringFrom_flatMap_escape _ _ _
  rw [string, quote, List.append_assoc, List.cons_append, run_bind (run_drop _ _),
    run_bind (run_get _), List.singleton_append, run_bind (run_liftM hchars _),
    run_bind (run_set _ _), String.ofList_toList, run_pure]

/-! ## Numbers -/

theorem le_foldl_digits (cs : List Char) (n : Nat) :
    n ≤ cs.foldl (fun acc c => 10 * acc + Decimal.digitValue c) n := by
  induction cs generalizing n with
  | nil => exact Nat.le_refl n
  | cons c cs ih => exact Nat.le_trans (by omega) (ih (10 * n + Decimal.digitValue c))

/-- No digit is left over if all of them fit into the significand. -/
theorem extend_eq {cs : List Char} {n : Nat}
    (h : cs.foldl (fun acc c => 10 * acc + Decimal.digitValue c) n ≤ maxSignificand) :
    extend n cs = (cs.foldl (fun acc c => 10 * acc + Decimal.digitValue c) n, 0) := by
  induction cs generalizing n with
  | nil => rfl
  | cons c cs ih =>
    have hnext := le_foldl_digits cs (10 * n + Decimal.digitValue c)
    rw [List.foldl_cons] at h
    rw [extend, if_neg (by omega), ih h, List.foldl_cons]

/-- A number that a reader can hold is read without losing a digit. -/
theorem extend_digits {n : Nat} (h : n ≤ maxSignificand) :
    extend 0 (Decimal.digits n) = (n, 0) := by
  have hvalue : (Decimal.digits n).foldl (fun acc c => 10 * acc + Decimal.digitValue c) 0 = n :=
    Decimal.value_digits n
  rw [extend_eq (by rwa [hvalue]), hvalue]

theorem isDigit_of_ends (h : Ends rest) : ∀ c ∈ rest.head?, c.isDigit = false := by
  intro c hc
  cases hdigit : c.isDigit with
  | false => rfl
  | true => exact absurd (h c hc) (by simp [isNumeral, hdigit])

theorem exists_digits_eq_cons (n : Nat) :
    ∃ c cs, Decimal.digits n = c :: cs ∧ c.isDigit = true := by
  obtain ⟨c, cs, hcons⟩ := List.exists_cons_of_ne_nil (Decimal.digits_ne_nil n)
  exact ⟨c, cs, hcons, Decimal.isDigit_of_mem_digits (hcons ▸ List.mem_cons_self)⟩

/-- The digits of a number end where the rest does not go on with one. -/
theorem run_someDigits (n : Nat) (hrest : Ends rest) :
    someDigits.run (Decimal.digits n ++ rest) = .ok (Decimal.digits n, rest) := by
  have hdigit : ∀ c ∈ Decimal.digits n, c.isDigit = true := fun _ => Decimal.isDigit_of_mem_digits
  have hdrop : rest.dropWhile Char.isDigit = rest := by
    cases rest with
    | nil => rfl
    | cons c rest => rw [List.dropWhile_cons_of_neg (by simp [isDigit_of_ends hrest c rfl])]
  have hdigits : digits.run (Decimal.digits n ++ rest) = .ok (Decimal.digits n, rest) := by
    rw [digits, run_bind (run_get _), run_bind (run_set _ _),
      Decimal.takeWhile_digits_append (isDigit_of_ends hrest), List.dropWhile_append_of_pos hdigit,
      hdrop, run_pure]
  obtain ⟨c, cs, hcons, hc⟩ := exists_digits_eq_cons n
  rw [hcons] at hdigits ⊢
  rw [someDigits, run_bind (run_get _)]
  simp only [List.cons_append, if_pos hc]
  exact hdigits

/-- What ends a number is no point and no exponent. -/
theorem run_fractionPart (n : Nat) (hrest : Ends rest) :
    (fractionPart false n 0).run rest = .ok (.integer n, rest) := by
  rw [fractionPart, run_bind (run_get _)]
  split
  · exact absurd (hrest _ rfl) (by decide)
  · exact absurd (hrest _ rfl) (by decide)
  · exact absurd (hrest _ rfl) (by decide)
  · rfl

/-- A number without a fraction and an exponent is read as an integer. -/
theorem run_number {n : Nat} (h : n ≤ maxSignificand) (hrest : Ends rest) :
    number.run (Decimal.digits n ++ rest) = .ok (.integer n, rest) := by
  rw [number, run_bind (run_get _)]
  split
  · rename_i hminus
    obtain ⟨c, cs, hcons, hc⟩ := exists_digits_eq_cons n
    rw [hcons] at hminus
    obtain rfl := (List.cons.inj hminus).1
    exact absurd hc (by decide)
  · rw [run_bind (run_pure false _), run_bind (run_someDigits n hrest)]
    split
    · rename_i hzero
      exact (Decimal.digits_ne_zero_cons n _ _ hzero).elim
    · rw [extend_digits h]
      exact run_fractionPart n hrest

/-! ## Values -/

/-- A reader takes a text as a value, behind any blanks and in front of anything that cannot go on
with a number. -/
def Reader.Takes (read : Reader α) (text : List Char) (a : α) : Prop :=
  ∀ blanks rest, Blanks blanks → Ends rest → read.run (blanks ++ (text ++ rest)) = .ok (a, rest)

theorem Reader.Takes.run {read : Reader α} (h : read.Takes text a) (hrest : Ends rest) :
    read.run (text ++ rest) = .ok (a, rest) :=
  h [] rest blanks_nil hrest

/-- What is made of a value after it was taken reads no further. -/
theorem Reader.Takes.bind_pure {read : Reader α} {next : α → Reader β} {b : β}
    (h : read.Takes text a) (hnext : next a = pure b) : (read >>= next).Takes text b := by
  intro blanks rest hblanks hrest
  rw [run_bind (h blanks rest hblanks hrest), hnext, run_pure]

variable {style : Style} {depth : Nat}

theorem isBlank_of_isDigit {c : Char} (h : c.isDigit = true) : isBlank c = false := by
  cases hblank : isBlank c with
  | false => rfl
  | true => exact absurd (isNumeral_of_isBlank hblank) (by simp [isNumeral, h])

theorem takes_anyNumber {n : Nat} (h : n ≤ maxSignificand) (wanted : String) :
    (anyNumber wanted).Takes ((Value.int n).print style depth) (.integer n) := by
  intro blanks rest hblanks hrest
  have hprint : (Value.int n).print style depth = Decimal.digits n := rfl
  have hnumber := run_number h hrest
  obtain ⟨c, cs, hcons, hc⟩ := exists_digits_eq_cons n
  rw [hcons, List.cons_append] at hnumber
  rw [hprint, hcons, List.cons_append, anyNumber,
    run_bind (run_peek hblanks (isBlank_of_isDigit hc) _), if_pos (.inr hc)]
  exact hnumber

theorem takes_natural {n greatest : Nat} (h : n ≤ greatest) (hgreatest : greatest ≤ maxSignificand)
    (wanted : String) : (natural greatest wanted).Takes ((Value.int n).print style depth) n := by
  have hnumber : (anyNumber wanted).Takes ((Value.int n).print style depth) (.integer n) :=
    takes_anyNumber (Nat.le_trans h hgreatest) wanted
  refine hnumber.bind_pure ?_
  simp only
  rw [if_pos (by omega), Int.toNat_natCast]

theorem takes_bool (b : Bool) (wanted : String) :
    (Json.bool wanted).Takes ((Value.bool b).print style depth) b := by
  intro blanks rest hblanks _
  cases b with
  | true =>
    rw [Value.print, List.cons_append, Json.bool, run_bind (run_peek hblanks rfl _)]
    rfl
  | false =>
    rw [Value.print, List.cons_append, Json.bool, run_bind (run_peek hblanks rfl _)]
    rfl

theorem takes_nullable_null (read : Reader α) :
    (nullable read).Takes (Value.null.print style depth) none := by
  intro blanks rest hblanks _
  rw [Value.print, List.cons_append, nullable, run_bind (run_peek hblanks rfl _)]
  rfl

/-! ## Arrays -/

/-- A text starts neither with a blank nor with the end of an array. -/
def StartsItem (text : List Char) : Prop := ∃ c cs, text = c :: cs ∧ isBlank c = false ∧ c ≠ ']'

theorem startsItem_int (n : Nat) : StartsItem ((Value.int n).print style depth) := by
  obtain ⟨c, cs, hcons, hc⟩ := exists_digits_eq_cons n
  refine ⟨c, cs, hcons, isBlank_of_isDigit hc, ?_⟩
  rintro rfl
  exact absurd hc (by decide)

variable {item : List Char}

/-- The first item stands behind no comma. -/
theorem run_moreItems_first (h : Blanks blanks) (hitem : StartsItem item) (rest : List Char) :
    (moreItems true).run (blanks ++ (item ++ rest)) = .ok (true, item ++ rest) := by
  obtain ⟨c, cs, rfl, hblank, hc⟩ := hitem
  rw [List.cons_append, moreItems, run_bind (run_peek h hblank _)]
  split
  · contradiction
  · rfl

/-- Any other item stands behind a comma. -/
theorem run_moreItems_comma (h : Blanks blanks) (hitem : StartsItem item) (rest : List Char) :
    (moreItems false).run (',' :: (blanks ++ (item ++ rest))) = .ok (true, item ++ rest) := by
  obtain ⟨c, cs, rfl, hblank, hc⟩ := hitem
  rw [List.cons_append, moreItems, run_bind (run_peek_cons rfl _)]
  show (do drop; if (← peek) = ']' then throw .malformed else return true : Reader Bool).run _ = _
  rw [run_bind (run_drop _ _), run_bind (run_peek h hblank _), if_neg hc, run_pure]

theorem run_endArray (h : Blanks blanks) (rest : List Char) :
    endArray.run (blanks ++ [']'] ++ rest) = .ok ((), rest) := by
  rw [List.append_assoc, List.singleton_append, endArray, run_bind (run_peek h rfl _), if_pos rfl,
    run_drop]

/-! ## Objects -/

/-- A style breaks lines with blanks only, and has nothing but blanks behind a colon. -/
structure Style.IsLoose (style : Style) : Prop where
  line : style.IsBlank
  colon : ∃ blanks, Blanks blanks ∧ style.colon = ':' :: blanks

theorem isLoose_compact : compact.IsLoose := ⟨fun _ => blanks_nil, [], blanks_nil, rfl⟩

theorem isLoose_pretty : pretty.IsLoose := ⟨isBlank_pretty, [' '], List.forall_mem_singleton.2 rfl, rfl⟩

theorem run_memberName?_first (h : Blanks blanks) (name : String) (rest : List Char) :
    (memberName? true).run (blanks ++ (quote name ++ rest)) = .ok (some name, rest) := by
  have hname := run_map some (run_string name rest)
  rw [quote, List.cons_append, List.cons_append] at hname ⊢
  rw [memberName?, run_bind (run_peek h rfl _)]
  exact hname

theorem run_memberName?_comma (h : Blanks blanks) (name : String) (rest : List Char) :
    (memberName? false).run (',' :: (blanks ++ (quote name ++ rest))) = .ok (some name, rest) := by
  have hname := run_map some (run_string name rest)
  rw [quote, List.cons_append, List.cons_append] at hname ⊢
  rw [memberName?, run_bind (run_peek_cons rfl _)]
  show (do drop; if (← peek) = '"' then some <$> string else throw .malformed : Reader _).run _ = _
  rw [run_bind (run_drop _ _), run_bind (run_peek h rfl _), if_pos rfl]
  exact hname

theorem run_memberName?_end (h : Blanks blanks) (first : Bool) (rest : List Char) :
    (memberName? first).run (blanks ++ ['\x7d'] ++ rest) = .ok (none, rest) := by
  rw [List.append_assoc, List.singleton_append, memberName?, run_bind (run_peek h rfl _)]
  rfl

theorem run_colon (h : Blanks blanks) (rest : List Char) :
    colon.run (blanks ++ ':' :: rest) = .ok ((), rest) := by
  rw [colon, run_bind (run_peek h rfl _), if_pos rfl, run_drop]

theorem printMember_append (name : String) (v : Value) (rest : List Char) :
    printMember style depth (name, v) ++ rest =
      quote name ++ (style.colon ++ v.print style depth ++ rest) := by
  rw [printMember, List.append_assoc (quote name), List.append_assoc]

variable {member : α → String → Reader α} {name : String} {v : Value} {ms : List (String × Value)}

/-- The members of an object are taken one after the other, and make `b` from `a`. -/
inductive Taken (style : Style) (depth : Nat) (member : α → String → Reader α) :
    α → List (String × Value) → α → Prop where
  | nil (a : α) : Taken style depth member a [] a
  | cons {a b c : α} {name : String} {v : Value} {ms : List (String × Value)}
    (hfirst : (member a name).Takes (style.colon ++ v.print style depth) b)
    (hothers : Taken style depth member b ms c) : Taken style depth member a ((name, v) :: ms) c

/-- One step through an object: a name, a member, and the members that are left. -/
theorem run_members_succ {fuel : Nat} {first : Bool} {c : α} {rest' : List Char}
    (hname : (memberName? first).run text =
      .ok (some name, style.colon ++ v.print style depth ++ rest))
    (hmember : (member a name).Takes (style.colon ++ v.print style depth) b) (hrest : Ends rest)
    (hothers : (members member fuel false b).run rest = .ok (c, rest')) :
    (members member (fuel + 1) first a).run text = .ok (c, rest') := by
  rw [members, run_bind hname]
  simp only
  rw [run_bind (hmember.run hrest)]
  exact hothers

/-- The members behind the first one, with what closes an object behind them. -/
theorem run_members (hstyle : style.IsLoose) (h : Taken style (depth + 1) member a ms b) {fuel : Nat}
    (hfuel : ms.length < fuel) (rest : List Char) :
    (members member fuel false a).run
      (separated (style.line (depth + 1)) (ms.map (printMember style (depth + 1))) ++
        (style.line depth ++ ['\x7d'] ++ rest)) = .ok (b, rest) := by
  induction h generalizing fuel with
  | nil a =>
    obtain ⟨fuel, rfl⟩ := Nat.exists_eq_add_one.2 hfuel
    rw [List.map_nil, separated, List.flatMap_nil, List.nil_append, members,
      run_bind (run_memberName?_end (hstyle.line depth) _ _), run_pure]
  | @cons a b c name v ms hfirst _ ih =>
    obtain ⟨fuel, rfl⟩ := Nat.exists_eq_add_one.2 (Nat.zero_lt_of_lt hfuel)
    have hclose : Closes (style.line depth ++ ['\x7d'] ++ rest) :=
      (closes_line hstyle.line (by decide) rfl).append rest
    rw [separated_map_cons, printMember_append]
    exact run_members_succ (run_memberName?_comma (hstyle.line (depth + 1)) _ _) hfirst
      (ends_separated hclose _) (ih (Nat.lt_of_succ_lt_succ hfuel))

/-- A text has a character for each of its items, so that its length is fuel enough for them. -/
theorem length_le_separated (line : List Char) (p : β → List Char) (bs : List β) :
    bs.length ≤ (separated line (bs.map p)).length := by
  induction bs with
  | nil => exact Nat.le_refl _
  | cons b bs ih =>
    simp only [separated, List.map_cons, List.flatMap_cons, List.length_append,
      List.length_cons] at ih ⊢
    omega

/-- An object is taken member by member. As each of them has a character at least, the steps that
its reader may take are enough. -/
theorem run_object (hstyle : style.IsLoose) (h : Taken style (depth + 1) member a ms b)
    (rest : List Char) :
    (do drop; object member a : Reader α).run ((Value.object ms).print style depth ++ rest) =
      .ok (b, rest) := by
  rw [Value.print, printMembers_eq_map]
  cases h with
  | nil =>
    rw [List.map_nil, Style.enclose, List.cons_append, run_bind (run_drop _ _), object,
      run_bind (run_get _), members]
    exact run_bind (run_memberName?_end blanks_nil true rest)
  | @cons _ b' _ name v ms hfirst hothers =>
    have hclose : Closes (style.line depth ++ ['\x7d'] ++ rest) :=
      (closes_line hstyle.line (by decide) rfl).append rest
    have hlength := length_le_separated (style.line (depth + 1)) (printMember style (depth + 1)) ms
    rw [enclose_cons_append, printMember_append, run_bind (run_drop _ _), object,
      run_bind (run_get _)]
    refine run_members_succ (run_memberName?_first (hstyle.line (depth + 1)) _ _) hfirst
      (ends_separated hclose _) (run_members hstyle hothers ?_ rest)
    simp only [List.length_append, List.length_cons]
    omega

/-- A text that holds nothing but a value is read as that value. -/
theorem parse_toText {read : Reader α} (h : read.Takes (v.print style 0) a) :
    parse read (v.toText style) = .ok a := by
  have hread : read.run (v.print style 0) = .ok (a, []) := by
    have hrun := h.run ends_nil
    rwa [List.append_nil] at hrun
  rw [parse, Value.toText, String.toList_ofList, hread]
  rfl

end LabelRaster.Json

import Mathlib.Data.List.Perm.Subperm
import LabelRaster.Proofs.Dump
import LabelRaster.Proofs.Reading
import LabelRaster.Settings.Json

/-!
# Settings written and read back

Each setting is read back from what is written for it. The members of an object are taken
in the order in which they stand, and what has been given after some of them depends on
their names alone (`taken_members`); what has not been given has its default. So the text
of settings may list its members in any order and leave out those of the default settings
(`Abridges`).
-/

namespace LabelRaster

open Json (Reader Value Style)

variable {style : Style} {depth : Nat}

/-! ## Single settings -/

namespace Density

@[simp] theorem dpi_inj {d e : Density} : d.dpi = e.dpi ↔ d = e := by
  constructor
  · intro h
    have hd := ofDpi?_dpi d
    rw [h, ofDpi?_dpi] at hd
    exact (Option.some.inj hd).symm
  · rintro rfl
    rfl

theorem takes_read (d : Density) : read.Takes ((Value.int d.dpi).print style depth) d := by
  have hdpi : d.dpi ≤ greatestCount := by cases d <;> decide
  exact (Json.takes_natural hdpi (by decide) "u32").bind_pure (by cases d <;> rfl)

end Density

namespace LengthUnit

@[simp] theorem name_inj {u v : LengthUnit} : u.name = v.name ↔ u = v := by
  cases u <;> cases v <;> decide

theorem takes_read (u : LengthUnit) : read.Takes ((Value.string u.name).print style depth) u := by
  intro blanks rest hblanks _
  have hname : readName.run (Json.quote u.name ++ rest) = .ok (u, rest) := by
    rw [readName, Json.run_bind (Json.run_string _ _)]
    cases u <;> rfl
  rw [Json.quote, List.cons_append, List.cons_append] at hname
  rw [Value.print, Json.quote, List.cons_append, List.cons_append, read,
    Json.run_bind (Json.run_peek hblanks rfl _)]
  exact hname

end LengthUnit

namespace Color

@[simp] theorem map_bytes_inj {c d : Color} :
    c.bytes.map (fun b => Value.int b.toNat) = d.bytes.map (fun b => Value.int b.toNat) ↔ c = d := by
  cases c
  cases d
  simp [bytes, UInt8.toNat_inj]

/-- The text of a channel. -/
def printChannel (style : Style) (depth : Nat) (b : UInt8) : List Char :=
  (Value.int b.toNat).print style depth

/-- One step through the channels of a colour. -/
theorem run_readChannels_succ {n left : Nat} {b : UInt8} {bs : List UInt8}
    {text rest rest' : List Char} (hrest : Json.Ends rest)
    (hmore : (Json.moreItems (n == 0)).run text = .ok (true, printChannel style depth b ++ rest))
    (hothers : (readChannels (n + 1) left).run rest = .ok (bs, rest')) :
    (readChannels n (left + 1)).run text = .ok (b :: bs, rest') := by
  have hchannel : (Json.natural 255 "u8").Takes (printChannel style depth b) b.toNat :=
    Json.takes_natural (Nat.le_of_lt_succ b.toNat_lt) (by decide) "u8"
  have hbyte : b.toNat.toUInt8 = b := UInt8.ofNat_toNat
  rw [readChannels, Json.run_bind hmore, if_pos rfl, Json.run_bind (hchannel.run hrest),
    Json.run_bind hothers, Json.run_pure, hbyte]

/-- Each channel behind the first one is read after a comma. -/
theorem run_readChannels {line close : List Char} (hline : Json.Blanks line)
    (hclose : Json.Closes close) (bs : List UInt8) (n : Nat) :
    (readChannels (n + 1) bs.length).run
      (Json.separated line (bs.map (printChannel style depth)) ++ close) = .ok (bs, close) := by
  induction bs generalizing n with
  | nil => rfl
  | cons b bs ih =>
    rw [Json.separated_map_cons]
    exact run_readChannels_succ (Json.ends_separated hclose _)
      (Json.run_moreItems_comma hline (Json.startsItem_int b.toNat) _) (ih (n + 1))

theorem takes_read (hstyle : style.IsLoose) (c : Color) :
    read.Takes ((Value.array (c.bytes.map fun b => .int b.toNat)).print style depth) c := by
  intro blanks rest hblanks hrest
  obtain ⟨red, green, blue, alpha⟩ := c
  have hprint : (Value.array
      ((⟨red, green, blue, alpha⟩ : Color).bytes.map fun b => .int b.toNat)).print style depth =
        style.enclose depth '[' ']'
          ([red, green, blue, alpha].map (printChannel style (depth + 1))) := by
    rw [Value.print, Json.printItems_eq_map, List.map_map]
    rfl
  have hline : Json.Blanks (style.line (depth + 1)) := hstyle.line (depth + 1)
  have hclose : Json.Closes (style.line depth ++ [']'] ++ rest) :=
    (Json.closes_line hstyle.line (by decide) rfl).append rest
  have hchannels : (readChannels 0 4).run (style.line (depth + 1) ++
      (printChannel style (depth + 1) red ++
        (Json.separated (style.line (depth + 1))
          ([green, blue, alpha].map (printChannel style (depth + 1))) ++
            (style.line depth ++ [']'] ++ rest)))) =
      .ok ([red, green, blue, alpha], style.line depth ++ [']'] ++ rest) :=
    run_readChannels_succ (Json.ends_separated hclose _)
      (Json.run_moreItems_first hline (Json.startsItem_int red.toNat) _)
      (run_readChannels hline hclose [green, blue, alpha] 0)
  rw [hprint, Json.enclose_cons_append, read, Json.run_bind (Json.run_peek hblanks rfl _)]
  refine (Json.run_bind (Json.run_drop _ _)).trans ?_
  rw [Json.run_bind hchannels, Json.run_bind (Json.run_endArray (hstyle.line depth) rest)]
  rfl

end Color

/-! ## Members -/

namespace Settings

/-- Settings without a size of the label, whose counts fit into 32 bits. -/
structure IsPlain (s : Settings) : Prop where
  labelWidth : s.labelWidth = none
  labelHeight : s.labelHeight = none
  maxWidth : s.maxWidth ≤ greatestCount
  maxHeight : s.maxHeight ≤ greatestCount

/-- The settings of some names. -/
def given (s : Settings) (names : List String) : Given where
  density := if "density" ∈ names then some s.density else none
  unit := if "unit" ∈ names then some s.unit else none
  labelWidth := if "label_width" ∈ names then some s.labelWidth else none
  labelHeight := if "label_height" ∈ names then some s.labelHeight else none
  maxWidth := if "max_preview_width" ∈ names then some s.maxWidth else none
  maxHeight := if "max_preview_height" ∈ names then some s.maxHeight else none
  centred := if "center_content" ∈ names then some s.centred else none
  background := if "background" ∈ names then some s.background else none

theorem takes_readCount {n : Nat} (h : n ≤ greatestCount) :
    readCount.Takes ((Value.int n).print style depth) n :=
  Json.takes_natural h (by decide) "u32"

/-- A member that is known, and has not been given, is read by its own reader. -/
theorem takes_readMember (hstyle : style.IsLoose) {f : Field} {g g' : Given} {name : String}
    {text : List Char} (hfind : fields.find? (fun f => f.name == name) = some f)
    (hnew : f.isGiven g = false) (hread : (f.read g).Takes text g') :
    (readMember g name).Takes (style.colon ++ text) g' := by
  intro blanks rest hblanks hrest
  obtain ⟨behind, hbehind, hcolon⟩ := hstyle.colon
  rw [hcolon, List.cons_append, List.cons_append, List.append_assoc]
  simp only [readMember, hfind, hnew, Bool.false_eq_true, if_false]
  rw [Json.run_bind (Json.run_colon hblanks _)]
  exact hread behind rest hbehind hrest

variable {s : Settings} {names : List String} {ms : List (String × Value)}

/-- A member that has not been given yet is added to what has been given. -/
theorem takes_member (hs : s.IsPlain) (hstyle : style.IsLoose) :
    ∀ m ∈ s.toMembers, m.1 ∉ names →
      (readMember (s.given names) m.1).Takes (style.colon ++ m.2.print style depth)
        (s.given (m.1 :: names)) := by
  simp only [toMembers, hs.labelWidth, hs.labelHeight, List.forall_mem_cons, List.not_mem_nil,
    false_implies, implies_true, and_true]
  refine ⟨fun hnew => ?density, fun hnew => ?unit, fun hnew => ?labelWidth, fun hnew => ?labelHeight,
    fun hnew => ?maxWidth, fun hnew => ?maxHeight, fun hnew => ?centred, fun hnew => ?background⟩
  case density =>
    exact takes_readMember hstyle rfl (by simp [given, hnew])
      ((Density.takes_read s.density).bind_pure (by simp [given]))
  case unit =>
    exact takes_readMember hstyle rfl (by simp [given, hnew])
      ((LengthUnit.takes_read s.unit).bind_pure (by simp [given]))
  case labelWidth =>
    exact takes_readMember hstyle rfl (by simp [given, hnew])
      ((Json.takes_nullable_null _).bind_pure (by simp [given, hs.labelWidth]))
  case labelHeight =>
    exact takes_readMember hstyle rfl (by simp [given, hnew])
      ((Json.takes_nullable_null _).bind_pure (by simp [given, hs.labelHeight]))
  case maxWidth =>
    exact takes_readMember hstyle rfl (by simp [given, hnew])
      ((takes_readCount hs.maxWidth).bind_pure (by simp [given]))
  case maxHeight =>
    exact takes_readMember hstyle rfl (by simp [given, hnew])
      ((takes_readCount hs.maxHeight).bind_pure (by simp [given]))
  case centred =>
    exact takes_readMember hstyle rfl (by simp [given, hnew])
      ((Json.takes_bool s.centred "a boolean").bind_pure (by simp [given]))
  case background =>
    exact takes_readMember hstyle rfl (by simp [given, hnew])
      ((Color.takes_read hstyle s.background).bind_pure (by simp [given]))

/-- What has been given after some members is told by their names. -/
theorem taken_members (hs : s.IsPlain) (hstyle : style.IsLoose) (hms : ∀ m ∈ ms, m ∈ s.toMembers)
    (hnodup : (ms.map Prod.fst).Nodup) (hnew : ∀ m ∈ ms, m.1 ∉ names) :
    Json.Taken style depth readMember (s.given names) ms
      (s.given ((ms.map Prod.fst).reverse ++ names)) := by
  induction ms generalizing names with
  | nil => exact .nil _
  | cons m ms ih =>
    rw [List.forall_mem_cons] at hms hnew
    rw [List.map_cons, List.nodup_cons] at hnodup
    have hothers : ∀ n ∈ ms, n.1 ∉ m.1 :: names := by
      intro n hn hmem
      rcases List.mem_cons.1 hmem with hname | hname
      · exact hnodup.1 (hname ▸ List.mem_map_of_mem hn)
      · exact hnew.2 n hn hname
    rw [List.map_cons, List.reverse_cons, List.append_assoc, List.singleton_append]
    exact .cons (takes_member hs hstyle m hms.1 hnew.1) (ih hms.2 hnodup.2 hothers)

theorem takes_read (hstyle : style.IsLoose) {g : Given}
    (h : Json.Taken style (depth + 1) readMember .nothing ms g) :
    read.Takes ((Value.object ms).print style depth) g := by
  intro blanks rest hblanks _
  have hobject := Json.run_object hstyle h rest
  obtain ⟨cs, hcs⟩ : ∃ cs, (Value.object ms).print style depth = '\x7b' :: cs := by
    rw [Value.print]
    cases ms with
    | nil => exact ⟨_, rfl⟩
    | cons m ms => exact ⟨_, rfl⟩
  rw [hcs] at hobject ⊢
  rw [List.cons_append, read, Json.run_bind (Json.run_peek hblanks rfl _)]
  exact hobject

/-! ## Settings in full -/

theorem getD_ite {α : Type} {p : Prop} [Decidable p] {a b : α} (h : ¬ p → a = b) :
    (if p then some a else none).getD b = a := by
  by_cases hp : p
  · rw [if_pos hp, Option.getD_some]
  · rw [if_neg hp, Option.getD_none, h hp]

/-- Members that are as by default need not be given. -/
theorem complete_given (hs : s.IsPlain)
    (h : ∀ m ∈ s.toMembers, m.1 ∉ names → m ∈ default.toMembers) :
    (s.given names).complete = s := by
  -- One condition for each member of the settings, and then the default that has its name.
  simp only [toMembers, List.forall_mem_cons] at h
  simp only [default, List.mem_cons, List.not_mem_nil, Prod.mk.injEq, String.reduceEq,
    Value.int_inj, Value.string.injEq, Value.bool.injEq, Value.array.injEq, Int.natCast_inj,
    Density.dpi_inj, LengthUnit.name_inj, Color.map_bytes_inj, true_and, false_and, false_or,
    or_false] at h
  obtain ⟨hdensity, hunit, -, -, hmaxWidth, hmaxHeight, hcentred, hbackground, -⟩ := h
  simp only [Given.complete, given, default, getD_ite hdensity, getD_ite hunit, getD_ite hmaxWidth,
    getD_ite hmaxHeight, getD_ite hcentred, getD_ite hbackground, getD_ite fun _ => hs.labelWidth,
    getD_ite fun _ => hs.labelHeight]

/-- Members of some settings, in any order. A member may be missing if it is one of the default
settings too. -/
structure Abridges (ms : List (String × Value)) (s : Settings) : Prop where
  subperm : ms.Subperm s.toMembers
  mem_default : ∀ m ∈ s.toMembers, m ∉ ms → m ∈ default.toMembers

theorem abridges_toMembers (s : Settings) : Abridges s.toMembers s :=
  ⟨List.Subperm.refl _, fun _ hm hlacks => absurd hm hlacks⟩

theorem Abridges.nodup_names (h : Abridges ms s) : (ms.map Prod.fst).Nodup := by
  obtain ⟨kept, hperm, hsublist⟩ := h.subperm
  have hnames : (s.toMembers.map Prod.fst).Nodup := by simp [toMembers]
  exact (hperm.map Prod.fst).nodup_iff.1 (hnames.sublist (hsublist.map Prod.fst))

/-- Settings are read from such a text, as far as they can be used. -/
theorem ofText_of_abridges (hs : s.IsPlain) (hstyle : style.IsLoose) (h : Abridges ms s) :
    ofText ((Value.object ms).toText style) =
      (s.validate.mapError LoadError.settings).map fun _ => s := by
  have htaken : Json.Taken style 1 readMember .nothing ms
      (s.given ((ms.map Prod.fst).reverse ++ [])) :=
    taken_members hs hstyle h.subperm.subset h.nodup_names fun _ _ => List.not_mem_nil
  have hcomplete : (s.given ((ms.map Prod.fst).reverse ++ [])).complete = s := by
    refine complete_given hs fun m hm hname => h.mem_default m hm fun hmem => hname ?_
    rw [List.append_nil, List.mem_reverse]
    exact List.mem_map_of_mem hmem
  rw [ofText, Json.parse_toText (takes_read hstyle htaken)]
  simp only [hcomplete]
  cases s.validate with
  | error e => rfl
  | ok u => rfl

/-- Settings without a size of the label are read back from their text, and from any text that
lists their members in another order and leaves out some that are as they are by default. If they
would show the label in no size at all, their text is read and the settings are refused. -/
theorem ofText_toText (hs : s.IsPlain) :
    (0 < s.maxWidth ∧ 0 < s.maxHeight →
      ofText s.toText = .ok s ∧
        ∀ ms, Abridges ms s → ∀ style : Style, style.IsLoose →
          ofText ((Value.object ms).toText style) = .ok s) ∧
    (s.maxWidth = 0 ∨ s.maxHeight = 0 →
      ofText s.toText = .error (.settings (.emptyDisplay s.maxWidth s.maxHeight))) := by
  have htext := ofText_of_abridges hs Json.isLoose_compact s.abridges_toMembers
  refine ⟨fun hpos => ?_, fun hzero => ?_⟩
  · have hvalid : s.validate = .ok () := by
      rw [validate_eq_ok_iff, hs.labelWidth, hs.labelHeight]
      simp only [Option.not_mem_none, false_implies, implies_true, and_true]
      omega
    rw [hvalid] at htext
    refine ⟨htext, fun ms hms style hstyle => ?_⟩
    rw [ofText_of_abridges hs hstyle hms, hvalid]
    rfl
  · have hrefused : s.validate = .error (.emptyDisplay s.maxWidth s.maxHeight) := if_pos hzero
    rwa [hrefused] at htext

/-- Two members that are not as they are by default, in another order; all members, each on a line
of its own; and settings that are refused. -/
theorem ofText_toText_short :
    let s : Settings := { default with density := .dpi300, background := ⟨0, 16, 255, 128⟩ }
    let r : Settings := { default with maxHeight := 0 }
    s.IsPlain ∧ r.IsPlain ∧
      ofText "\x7b\"background\":[0,16,255,128],\"density\":300\x7d" = .ok s ∧
      ofText (s.toJson.toText Json.pretty) = .ok s ∧
      ofText r.toText = .error (.settings (.emptyDisplay 600 0)) := by
  intro s r
  have hs : s.IsPlain := ⟨rfl, rfl, by decide, by decide⟩
  have hr : r.IsPlain := ⟨rfl, rfl, by decide, by decide⟩
  let background : String × Value := ("background", .array [.int 0, .int 16, .int 255, .int 128])
  let density : String × Value := ("density", .int 300)
  have hkept : [density, background].Sublist s.toMembers :=
    .cons_cons _ (.cons _ (.cons _ (.cons _ (.cons _ (.cons _ (.cons _ (.cons_cons _ .slnil)))))))
  have hmembers : Abridges [background, density] s := by
    refine ⟨⟨[density, background], .swap _ _ _, hkept⟩, ?_⟩
    simp [toMembers, default, s, density, background, Density.dpi, Color.bytes]
  have htext : (Value.object [background, density]).toText Json.compact =
      "\x7b\"background\":[0,16,255,128],\"density\":300\x7d" := by decide +kernel
  have hread := ((ofText_toText hs).1 (by decide)).2
  exact ⟨hs, hr, htext ▸ hread _ hmembers Json.compact Json.isLoose_compact,
    hread _ s.abridges_toMembers Json.pretty Json.isLoose_pretty, (ofText_toText hr).2 (.inr rfl)⟩

end Settings

end LabelRaster

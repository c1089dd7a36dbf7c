import LabelRaster.Label.Layout
import LabelRaster.Label.Size
import LabelRaster.Proofs.Hull
import LabelRaster.Settings.Basic

/-!
# Settings within their ranges

Whatever the commands of a label and their arguments are, every size that is in force
while it is read is positive and no larger than a position can hold. A command that
writes no such size leaves the one in force as it is. So one directive keeps a layout in
its ranges and places an element in them, and so does any list of directives
(`InRange.run`): a label has a size of its own, whatever its text.
-/

namespace LabelRaster

open Dot (Holds HoldsSize)

/-! ## What a command brings -/

/-- What a field is read as is a position, however many digits it has. -/
theorem Decimal.holds_leadingInt? {field : List Char} : ∀ v ∈ leadingInt? field, Holds v := by
  intro v hv
  simp only [leadingInt?, Option.mem_def, Option.ite_none_left_eq_some, Option.some.injEq] at hv
  obtain ⟨-, rfl⟩ := hv
  exact Dot.holds_clamp _

namespace Params

theorem holds_int? (p : Params) (i : Nat) : ∀ v ∈ p.int? i, Holds v := by
  intro v hv
  obtain ⟨field, -, hv⟩ := Option.bind_eq_some_iff.1 hv
  exact Decimal.holds_leadingInt? v hv

theorem holds_firstInt? (p : Params) (is : List Nat) : ∀ v ∈ p.firstInt? is, Holds v := by
  intro v hv
  obtain ⟨field, -, hv⟩ := Option.bind_eq_some_iff.1 hv
  exact Decimal.holds_leadingInt? v hv

end Params

theorem Dot.holds_getD {v : Option Int} {default : Int} (h : ∀ i ∈ v, Holds i)
    (hdefault : Holds default) : Holds (v.getD default) := by
  cases v with
  | none => exact hdefault
  | some i => exact h i rfl

theorem Dot.holdsSize_getD {n : Option Nat} {default : Nat} (h : ∀ k ∈ n, HoldsSize k)
    (hdefault : HoldsSize default) : HoldsSize (n.getD default) := by
  cases n with
  | none => exact hdefault
  | some k => exact h k rfl

namespace Directive

/-- Whether the numbers that a directive brings are in their ranges. -/
def InRange : Directive → Prop
  | labelHome p | fieldOrigin p => Holds p.x ∧ Holds p.y
  | labelWidth n | font _ n | fontHeight n | bars _ n | matrix n => ∀ k ∈ n, HoldsSize k
  | barDefaults width height => (∀ k ∈ width, HoldsSize k) ∧ ∀ k ∈ height, HoldsSize k
  | box width height thickness => Holds width ∧ Holds height ∧ Holds thickness
  | picture header => Holds header.totalBytes ∧ Holds header.bytesPerRow
  | data _ | separator | ignored => True

theorem holdsSize_size? {v : Option Int} (h : ∀ i ∈ v, Holds i) : ∀ k ∈ size? v, HoldsSize k := by
  intro k hk
  obtain ⟨i, hi, rfl⟩ := Option.map_eq_some_iff.1 hk
  obtain ⟨hv, hpos⟩ := Option.filter_eq_some_iff.1 hi
  have hpos : 0 < i := of_decide_eq_true hpos
  have hle := (h i hv).2
  constructor <;> omega

/-- What a command brings is in its range, whatever its argument. -/
theorem inRange_ofCommand (c : Command) : (ofCommand c).InRange := by
  have hint := fun i => (Params.ofText c.arg).holds_int? i
  have hfirst := fun is => (Params.ofText c.arg).holds_firstInt? is
  have hzero : Holds 0 := by decide
  have hone : Holds 1 := by decide
  have hpoint : Holds (point (Params.ofText c.arg)).x ∧ Holds (point (Params.ofText c.arg)).y :=
    ⟨Dot.holds_getD (hint 0) hzero, Dot.holds_getD (hint 1) hzero⟩
  unfold ofCommand
  split
  · exact hpoint
  · exact hpoint
  · exact holdsSize_size? (hint 0)
  · exact holdsSize_size? (hint 1)
  · exact ⟨holdsSize_size? (hint 0), holdsSize_size? (hfirst [2, 1])⟩
  · exact holdsSize_size? (hint 1)
  · exact holdsSize_size? (hfirst [2, 1])
  · exact ⟨Dot.holds_getD (hint 0) hzero, Dot.holds_getD (hint 1) hzero,
      Dot.holds_getD (hint 2) hone⟩
  · exact ⟨Dot.holds_getD (hfirst [1, 2]) hzero, Dot.holds_getD (hint 3) hzero⟩
  · trivial
  · trivial
  · split
    · exact holdsSize_size? (hint 1)
    · trivial

end Directive

/-! ## Pictures -/

namespace PictureHeader

theorem width_bounds (h : PictureHeader) : 1 ≤ h.width ∧ h.width ≤ Dot.greatest := by
  simp only [width, defaultSide]
  split
  · have hpos : Dot.clamp 1 ≤ Dot.clamp (8 * h.bytesPerRow) := Dot.clamp_mono (by omega)
    have hone : Dot.clamp 1 = 1 := by decide
    exact ⟨hone ▸ hpos, Dot.clamp_le_greatest _⟩
  · decide

/-- No header makes a picture without rows, or of more rows than a position can count. -/
theorem height_bounds {h : PictureHeader} (htotal : Holds h.totalBytes) :
    1 ≤ h.height ∧ h.height ≤ Dot.greatest := by
  simp only [height, defaultSide]
  split
  · rename_i hpos
    obtain ⟨hrow, hbytes⟩ := hpos
    -- The rows are rounded up, but there are no more of them than bytes.
    have hle : (h.totalBytes + h.bytesPerRow - 1) / h.bytesPerRow ≤ h.totalBytes := by
      rw [← Int.lt_add_one_iff, Int.ediv_lt_iff_lt_mul hrow, Int.add_mul, Int.one_mul]
      have hmul := Int.mul_le_mul_of_nonneg_left hrow (Int.le_of_lt hbytes)
      rw [Int.zero_add, Int.mul_one] at hmul
      omega
    have hge : 1 ≤ (h.totalBytes + h.bytesPerRow - 1) / h.bytesPerRow := by
      rw [Int.le_ediv_iff_mul_le hrow]
      omega
    exact ⟨hge, Int.le_trans hle htotal.2⟩
  · decide

end PictureHeader

/-! ## Layouts -/

/-- Whether the position, the sizes and the font of an element are in their ranges. A label leaves
the whole side of a symbol open and gives a picture no bytes. -/
def Element.InRange (e : Element) : Prop :=
  (Holds e.origin.x ∧ Holds e.origin.y) ∧
    match e with
    | text f => f.font = Layout.defaultFont ∧ HoldsSize f.height
    | box f => Holds f.width ∧ Holds f.height ∧ Holds f.thickness
    | bars f => HoldsSize f.height ∧ HoldsSize f.moduleWidth
    | matrix f => HoldsSize f.dotSize ∧ f.side = none
    | picture f =>
      (1 ≤ f.width ∧ f.width ≤ Dot.greatest) ∧ (1 ≤ f.height ∧ f.height ≤ Dot.greatest) ∧
        f.data = #[]

namespace Layout

/-- Whether all settings of a layout are in their ranges. -/
structure InRange (s : Layout) : Prop where
  home : Holds s.home.x ∧ Holds s.home.y
  cursor : Holds s.cursor.x ∧ Holds s.cursor.y
  font : s.font = defaultFont
  fontHeight : HoldsSize s.fontHeight
  moduleWidth : HoldsSize s.moduleWidth
  barHeight : HoldsSize s.barHeight
  magnification : HoldsSize s.magnification
  labelWidth : ∀ w ∈ s.labelWidth, HoldsSize w

theorem inRange_initial : initial.InRange := by
  constructor <;> decide

variable {s : Layout} {d : Directive}

/-- One directive keeps a layout in its ranges. -/
theorem InRange.next (hs : s.InRange) (hd : d.InRange) : (s.next d).InRange := by
  cases d with
  | labelHome p => exact { hs with home := hd }
  | fieldOrigin p => exact { hs with cursor := ⟨Dot.holds_add _ _, Dot.holds_add _ _⟩ }
  | labelWidth n =>
    refine { hs with labelWidth := ?_ }
    intro w hw
    rcases Option.or_eq_some_iff.1 hw with hw | ⟨-, hw⟩
    · exact hd w hw
    · exact hs.labelWidth w hw
  | font o n => exact { hs with font := rfl, fontHeight := Dot.holdsSize_getD hd hs.fontHeight }
  | fontHeight n => exact { hs with fontHeight := Dot.holdsSize_getD hd hs.fontHeight }
  | barDefaults w n =>
    exact { hs with
      moduleWidth := Dot.holdsSize_getD hd.1 hs.moduleWidth
      barHeight := Dot.holdsSize_getD hd.2 hs.barHeight }
  | bars o n => exact { hs with barHeight := Dot.holdsSize_getD hd hs.barHeight }
  | matrix n => exact { hs with magnification := Dot.holdsSize_getD hd (by decide) }
  | picture header => exact { hs with }
  | data content => exact { hs with }
  | separator => exact { hs with }
  | box width height thickness => exact hs
  | ignored => exact hs

theorem InRange.field (hs : s.InRange) (content : String) : (s.field content).InRange := by
  unfold Layout.field
  cases s.pending with
  | bars => exact ⟨hs.cursor, hs.barHeight, hs.moduleWidth⟩
  | matrix => exact ⟨hs.cursor, hs.magnification, rfl⟩
  | nothing => exact ⟨hs.cursor, hs.font, hs.fontHeight⟩
  | picture header => exact ⟨hs.cursor, hs.font, hs.fontHeight⟩

theorem InRange.placed (hs : s.InRange) (hd : d.InRange) : ∀ e ∈ s.placed d, e.InRange := by
  intro e he
  cases d with
  | box width height thickness =>
    cases he
    exact ⟨hs.cursor, hd⟩
  | picture header =>
    cases he
    exact ⟨hs.cursor, header.width_bounds, PictureHeader.height_bounds hd.1, rfl⟩
  | separator =>
    obtain ⟨content, -, rfl⟩ := Option.map_eq_some_iff.1 he
    exact hs.field content
  | _ => cases he

/-- Directives in their ranges keep a layout in its ranges, and place elements in theirs. -/
theorem InRange.run {ds : List Directive} (hs : s.InRange) (hds : ∀ d ∈ ds, d.InRange) :
    (s.run ds).1.InRange ∧ ∀ e ∈ (s.run ds).2, e.InRange := by
  induction ds generalizing s with
  | nil => exact ⟨hs, fun e he => absurd he List.not_mem_nil⟩
  | cons d ds ih =>
    rw [List.forall_mem_cons] at hds
    obtain ⟨hlast, hrest⟩ := ih (hs.next hds.1) hds.2
    rw [run_cons]
    refine ⟨hlast, fun e he => ?_⟩
    rcases List.mem_append.1 he with he | he
    · exact hs.placed hds.1 e (Option.mem_toList.1 he)
    · exact hrest e he

theorem inRange_run_ofCommand (cs : List Command) :
    (initial.run (cs.map Directive.ofCommand)).1.InRange ∧
      ∀ e ∈ (initial.run (cs.map Directive.ofCommand)).2, e.InRange :=
  inRange_initial.run <| List.forall_mem_map.2 fun c _ => Directive.inRange_ofCommand c

end Layout

/-! ## Sizes of labels -/

namespace Document

variable {generator : Symbol.Generator} {d : Document}

theorem holdsSize_reach? {far : Rect → Int}
    (hfar : ∀ r ∈ contentBounds? generator d.elements, far r ≤ Dot.greatest) :
    ∀ n ∈ d.reach? generator far, HoldsSize n := by
  intro n hn
  obtain ⟨v, hv, rfl⟩ := Option.map_eq_some_iff.1 hn
  obtain ⟨hv, hpos⟩ := Option.filter_eq_some_iff.1 hv
  obtain ⟨r, hr, rfl⟩ := Option.map_eq_some_iff.1 hv
  have hpos : 0 < far r := of_decide_eq_true hpos
  have hle := hfar r hr
  constructor <;> omega

/-- The size of a document whose elements are placed at positions is positive, and no larger than a
position can hold. -/
theorem holdsSize_size (hw : ∀ w ∈ d.labelWidth, HoldsSize w)
    (hes : ∀ e ∈ d.elements, Holds e.origin.x ∧ Holds e.origin.y) :
    HoldsSize (d.size generator).width ∧ HoldsSize (d.size generator).height := by
  have hwithin : ∀ r ∈ contentBounds? generator d.elements, r.Within Dot.positions := fun r hr =>
    (contentBounds?_within_iff hr).2 fun e he => Element.within_positions (hes e he).1 (hes e he).2
  have hright : ∀ n ∈ d.reach? generator Rect.right, HoldsSize n :=
    holdsSize_reach? fun r hr => (hwithin r hr).2.2.1
  have hbottom : ∀ n ∈ d.reach? generator Rect.bottom, HoldsSize n :=
    holdsSize_reach? fun r hr => (hwithin r hr).2.2.2
  refine ⟨Dot.holdsSize_getD (fun w h => ?_) (by decide), Dot.holdsSize_getD hbottom (by decide)⟩
  rcases Option.or_eq_some_iff.1 h with h | ⟨-, h⟩
  · exact hw w h
  · exact hright w h

theorem holdsSize_size_ofCommands (generator : Symbol.Generator) (cs : List Command) :
    HoldsSize ((ofCommands cs).size generator).width ∧
      HoldsSize ((ofCommands cs).size generator).height := by
  obtain ⟨hlast, hes⟩ := Layout.inRange_run_ofCommand cs
  exact holdsSize_size hlast.labelWidth fun e he => (hes e he).1

end Document

/-- A label with an area has its size adopted, in the unit in force. -/
theorem Settings.adopt_eq {s : Settings} {generator : Symbol.Generator} {d : Document}
    (hw : 0 < (d.size generator).width) (hh : 0 < (d.size generator).height) :
    s.adopt generator d =
      { s with
        labelWidth := some (s.unit.ofDots (Float.ofNat (d.size generator).width) s.dpi)
        labelHeight := some (s.unit.ofDots (Float.ofNat (d.size generator).height) s.dpi) } :=
  if_pos ⟨hw, hh⟩

namespace Layout

/-- Every layout that a label leads to and every element that it places is in its ranges, and its
size is positive: settings that adopt it are always changed. -/
theorem inRange_label :
    (∀ cs : List Command,
      (initial.run (cs.map Directive.ofCommand)).1.InRange ∧
        ∀ e ∈ (Document.ofCommands cs).elements, e.InRange) ∧
    ∀ (text : String) (generator : Symbol.Generator),
      let d := Document.ofText text
      let size := d.size generator
      (HoldsSize size.width ∧ HoldsSize size.height) ∧
        ∀ s : Settings, s.adopt generator d =
          { s with
            labelWidth := some (s.unit.ofDots (Float.ofNat size.width) s.dpi)
            labelHeight := some (s.unit.ofDots (Float.ofNat size.height) s.dpi) } := by
  refine ⟨inRange_run_ofCommand, fun text generator => ?_⟩
  have hsize := Document.holdsSize_size_ofCommands generator (Command.ofText text)
  exact ⟨hsize, fun s => Settings.adopt_eq hsize.1.1 hsize.2.1⟩

/-- Sizes that are too large, missing or negative, and a box to the left of the last position. -/
theorem inRange_label_overflow :
    let cs : List Command := [⟨"CF", "0,99999999999"⟩, ⟨"GF", "A,7,,3"⟩, ⟨"A0", "N,-5"⟩,
      ⟨"FD", "x"⟩, ⟨"FS", ""⟩]
    let e : Element := .text ⟨⟨0, 0⟩, "sans-serif", 2147483647, .normal, "x"⟩
    let generator : Symbol.Generator := fun _ => .error .tooLong
    let d := Document.ofText "^PW0^FO99999999999,5^GB-3,4^FS"
    (Document.ofCommands cs).elements = [.picture ⟨⟨0, 0⟩, 24, 3, #[]⟩, e] ∧ e.InRange ∧
      d.size generator = ⟨2147483647, 9⟩ ∧ HoldsSize (d.size generator).width ∧
      (Settings.default.adopt generator d).labelHeight =
        some (LengthUnit.ofDots .millimeter (Float.ofNat (d.size generator).height)
          Settings.default.dpi) := by
  intro cs e generator d
  have hes : (Document.ofCommands cs).elements = [.picture ⟨⟨0, 0⟩, 24, 3, #[]⟩, e] := by
    decide +kernel
  have he : e ∈ (Document.ofCommands cs).elements := by simp [hes]
  obtain ⟨hsize, hadopt⟩ := inRange_label.2 "^PW0^FO99999999999,5^GB-3,4^FS" generator
  refine ⟨hes, (inRange_label.1 cs).2 e he, by decide +kernel, hsize.1, ?_⟩
  rw [hadopt]
  rfl

end Layout

end LabelRaster

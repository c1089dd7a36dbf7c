import Mathlib.Data.List.Induction
import LabelRaster.Proofs.History
import LabelRaster.Proofs.Moved
import LabelRaster.Proofs.Ranges
import LabelRaster.Proofs.Script

/-!
# The home of a label and the offset of a canvas

A label whose home is set in front of it paints what it would paint without, moved to
that home; and so does a canvas whose offset is moved. The elements of the label are
those without the home, moved (`elements_home`), and they stay within the range of
positions (`movable_of_home`), so that both ways lead to the same picture.
-/

namespace LabelRaster

/-- The command that sets the home of a label. -/
def Command.home (p : Point) : Command :=
  .ofParams "LH" [Decimal.numeral p.x, Decimal.numeral p.y]

variable {p : Point}

namespace Dot

theorem add_zero_of_holds {a : Int} (h : Holds a) : add a 0 = a := by
  rw [add, Int.add_zero, clamp_of_mem h.1 h.2]

end Dot

namespace Command

theorem holds_int (c : Command) (i : Nat) : Dot.Holds (c.int i) := by
  rw [int_eq]
  exact Dot.holds_getD (Params.holds_int? _ i) (by decide)

theorem holds_point (c : Command) : Dot.Holds c.point.x ∧ Dot.Holds c.point.y :=
  ⟨c.holds_int 0, c.holds_int 1⟩

end Command

/-! ## Layouts -/

namespace Layout

/-- A layout with another home and another cursor. -/
def displaced (p q : Point) (s : Layout) : Layout := { s with home := p, cursor := q }

/-- A directive that sets no home does the same to the rest of a layout, whatever its home and its
cursor are. -/
theorem next_displaced (s : Layout) (p q : Point) {d : Directive} (hd : ∀ r, d ≠ .labelHome r) :
    (s.displaced p q).next d = (s.next d).displaced p ((s.displaced p q).next d).cursor := by
  cases d with
  | labelHome r => exact absurd rfl (hd r)
  | _ => rfl

/-- A layout with another home and cursor places the same elements elsewhere. -/
theorem placed_displaced (s : Layout) (p q : Point) (d : Directive) :
    (s.displaced p q).placed d = (s.placed d).map (Element.placedAt q) := by
  cases d with
  | separator =>
    simp only [placed, Option.map_map]
    congr 1
    funext content
    simp only [displaced, field, Function.comp_apply]
    cases s.pending <;> rfl
  | _ => rfl

theorem origin_of_placed {s : Layout} {d : Directive} {e : Element} (h : s.placed d = some e) :
    e.origin = s.cursor := by
  cases d with
  | separator =>
    obtain ⟨content, -, rfl⟩ := Option.map_eq_some_iff.1 h
    simp only [field]
    cases s.pending <;> rfl
  | box => cases h; rfl
  | picture => cases h; rfl
  | _ => cases h

end Layout

/-! ## Histories -/

namespace History

theorem ofCommand_ne_labelHome {c : Command} (h : c.code ≠ "LH") (r : Point) :
    Directive.ofCommand c ≠ .labelHome r := by
  unfold Directive.ofCommand
  split <;> simp_all
  split <;> simp

theorem ofCommand_home (hp : Dot.Holds p.x ∧ Dot.Holds p.y) :
    Directive.ofCommand (.home p) = .labelHome p := by
  have hfields := Params.ofText_ofParams "LH" [Decimal.numeral p.x, Decimal.numeral p.y] (by simp)
    (by simp [Params.isField_numeral])
  change Directive.labelHome (Directive.point (Params.ofText (Command.home p).arg)) = _
  rw [Command.home, hfields, Directive.point, Params.int?_of_holds rfl hp.1,
    Params.int?_of_holds rfl hp.2]
  rfl

/-- A home in front of commands that set none changes nothing of the layout but the home and the
cursor. -/
theorem layout_cons_home (hp : Dot.Holds p.x ∧ Dot.Holds p.y) {past : List Command}
    (h : ∀ c ∈ past, c.code ≠ "LH") :
    layout (.home p :: past) = (layout past).displaced p (cursor (.home p :: past)) := by
  induction past using List.reverseRecOn with
  | nil =>
    have hnil : layout [Command.home p] = (layout []).next (.labelHome p) :=
      (layout_concat [] _).trans (by rw [ofCommand_home hp])
    have hcursor : cursor [Command.home p] = (layout [Command.home p]).cursor := rfl
    rw [hcursor, hnil]
    rfl
  | append_singleton past c ih =>
    rw [List.forall_mem_append, List.forall_mem_singleton] at h
    have hcursor : cursor (.home p :: (past ++ [c])) =
        (layout (.home p :: (past ++ [c]))).cursor := rfl
    rw [hcursor, ← List.cons_append, layout_concat, layout_concat, ih h.1,
      Layout.next_displaced _ _ _ (ofCommand_ne_labelHome h.2)]
    rfl

theorem home_eq_zero {past : List Command} (h : ∀ c ∈ past, c.code ≠ "LH") :
    home past = ⟨0, 0⟩ := by
  have hnone : past.filterMap (fun c => if c.code = "LH" then some c.point else none) = [] :=
    List.filterMap_eq_nil_iff.2 fun c hc => if_neg (h c hc)
  rw [home, last?, hnone]
  rfl

/-- The home in front of a label moves the cursor, as far as a position can be moved. -/
theorem cursor_cons_home (hp : Dot.Holds p.x ∧ Dot.Holds p.y) {past : List Command}
    (h : ∀ c ∈ past, c.code ≠ "LH") (hplaced : ∃ c ∈ past, c.code = "FO") :
    cursor (.home p :: past) = ⟨Dot.add (cursor past).x p.x, Dot.add (cursor past).y p.y⟩ := by
  induction past using List.reverseRecOn with
  | nil =>
    obtain ⟨c, hc, -⟩ := hplaced
    exact absurd hc List.not_mem_nil
  | append_singleton past c ih =>
    rw [List.forall_mem_append, List.forall_mem_singleton] at h
    rw [← List.cons_append, cursor_concat, cursor_concat]
    by_cases hc : c.code = "FO"
    · have hhome : home (.home p :: past) = p := congrArg Layout.home (layout_cons_home hp h.1)
      have hx := c.holds_point.1
      have hy := c.holds_point.2
      rw [if_pos hc, if_pos hc, hhome, home_eq_zero h.1]
      rw [Dot.add_zero_of_holds hx, Dot.add_zero_of_holds hy]
    · obtain ⟨d, hd, hcode⟩ := hplaced
      have hd : d ∈ past := by
        rcases List.mem_append.1 hd with hd | hd
        · exact hd
        · rw [List.mem_singleton] at hd
          exact absurd (hd ▸ hcode) hc
      rw [if_neg hc, if_neg hc, ih h.1 ⟨d, hd, hcode⟩]

theorem placed?_cons_home_zero (hp : Dot.Holds p.x ∧ Dot.Holds p.y) (cs : List Command) :
    placed? (.home p :: cs) 0 = none := by
  rw [placed?_eq (List.getElem?_cons_zero ..), ofCommand_home hp]
  rfl

/-- What a command places is moved by the home, if a field origin stands before that command. -/
theorem placed?_cons_home (hp : Dot.Holds p.x ∧ Dot.Holds p.y) {cs : List Command}
    (h : ∀ c ∈ cs, c.code ≠ "LH") {i : Nat}
    (horigin : (placed? cs i).isSome → ∃ c ∈ cs.take i, c.code = "FO")
    (hfit : ∀ e ∈ placed? cs i, Dot.Holds (e.origin.x + p.x) ∧ Dot.Holds (e.origin.y + p.y)) :
    placed? (.home p :: cs) (i + 1) = (placed? cs i).map (Element.moved p.x p.y) := by
  have htake : ∀ c ∈ cs.take i, c.code ≠ "LH" := fun c hc => h c (List.mem_of_mem_take hc)
  cases hc : cs[i]? with
  | none => simp only [placed?, List.getElem?_cons_succ, hc, Option.bind_none, Option.map_none]
  | some c =>
    have hc' : (Command.home p :: cs)[i + 1]? = some c := hc
    rw [placed?_eq hc', List.take_succ_cons, layout_cons_home hp htake, Layout.placed_displaced,
      ← placed?_eq hc]
    refine Option.map_congr fun e he => ?_
    have hcursor : e.origin = cursor (cs.take i) := by
      rw [placed?_eq hc] at he
      exact Layout.origin_of_placed he
    obtain ⟨hx, hy⟩ := hfit e he
    rw [hcursor] at hx hy
    rw [Element.moved, hcursor,
      cursor_cons_home hp htake (horigin (Option.isSome_iff_exists.2 ⟨e, he⟩)),
      Dot.add_of_mem hx.1 hx.2, Dot.add_of_mem hy.1 hy.2]
    rfl

/-- The elements of a label with a home in front are those of the label, moved to the home. -/
theorem elements_home (hp : Dot.Holds p.x ∧ Dot.Holds p.y) {cs : List Command}
    (h : ∀ c ∈ cs, c.code ≠ "LH")
    (horigin : ∀ i < cs.length, (placed? cs i).isSome → ∃ c ∈ cs.take i, c.code = "FO")
    (hfit : ∀ e ∈ (Document.ofCommands cs).elements,
      Dot.Holds (e.origin.x + p.x) ∧ Dot.Holds (e.origin.y + p.y)) :
    (Document.ofCommands (.home p :: cs)).elements =
      (Document.ofCommands cs).elements.map (Element.moved p.x p.y) := by
  rw [elements_ofCommands] at hfit
  rw [elements_ofCommands, elements_ofCommands, List.length_cons, List.range_succ_eq_map,
    List.filterMap_cons, placed?_cons_home_zero hp, List.filterMap_map, List.map_filterMap]
  refine List.filterMap_congr fun i hi => ?_
  exact placed?_cons_home hp h (horigin i (List.mem_range.1 hi)) fun e he =>
    hfit e (List.mem_filterMap.2 ⟨i, hi, he⟩)

theorem holds_origin {cs : List Command} {e : Element} (h : e ∈ (Document.ofCommands cs).elements) :
    Dot.Holds e.origin.x := ((Layout.inRange_run_ofCommand cs).2 e h).1.1

/-- The elements of a label can be moved to a home in front of it, if there is no matrix symbol and
nothing leaves the range of positions, with the home and without it. -/
theorem movable_of_home (hp : Dot.Holds p.x ∧ Dot.Holds p.y) {cs : List Command}
    (hhome : ∀ c ∈ cs, c.code ≠ "LH")
    (horigin : ∀ i < cs.length, (placed? cs i).isSome → ∃ c ∈ cs.take i, c.code = "FO")
    (hmatrix : ∀ m, Element.matrix m ∉ (Document.ofCommands cs).elements)
    (hfit : ∀ e ∈ (Document.ofCommands cs).elements,
      Dot.Holds (e.origin.x + p.x) ∧ Dot.Holds (e.origin.y + p.y))
    (hbars : ∀ b, .bars b ∈ (Document.ofCommands cs).elements ++
      (Document.ofCommands (.home p :: cs)).elements → b.rightEnd ≤ Dot.greatest) :
    ∀ e ∈ (Document.ofCommands cs).elements, e.Movable p.x := by
  intro e he
  refine ⟨holds_origin he, (hfit e he).1, ?_⟩
  cases e with
  | bars b =>
    have hmoved := List.mem_map_of_mem (f := Element.moved p.x p.y) he
    rw [← elements_home hp hhome horigin hfit] at hmoved
    have hend := hbars _ (List.mem_append_right _ hmoved)
    simp only [BarField.rightEnd, Point.moved, Element.origin] at hend
    refine ⟨hbars b (List.mem_append_left _ he), ?_⟩
    rw [BarField.rightEnd]
    omega
  | matrix m => exact hmatrix m he
  | _ => trivial

end History

/-! ## Pictures -/

namespace Viewport

/-- A viewport with its offset moved. -/
def moved (dx dy : Int) (v : Viewport) : Viewport := { v with offset := v.offset.moved dx dy }

theorem shows_moved {v : Viewport} {dx dy x y : Int} :
    (v.moved dx dy).Shows x y ↔ v.Shows (x + dx) (y + dy) := by
  simp only [Shows, moved, Point.moved]
  omega

theorem pixel?_moved (v : Viewport) (dx dy : Int) (q : Picture) (x y : Int) :
    (v.moved dx dy).pixel? q x y = v.pixel? q (x + dx) (y + dy) := by
  simp only [pixel?, moved, Point.moved, Int.add_assoc, Int.add_comm dx, Int.add_comm dy]

end Viewport

namespace Painter

open History

/-- A home in front of a label and an offset of the canvas lead to the same picture. -/
theorem render_home (generator : Symbol.Generator) (background : Color) {cs : List Command}
    {v : Viewport} (hp : Dot.Holds p.x ∧ Dot.Holds p.y) (hhome : ∀ c ∈ cs, c.code ≠ "LH")
    (horigin : ∀ i < cs.length, (placed? cs i).isSome → ∃ c ∈ cs.take i, c.code = "FO")
    (hmatrix : ∀ m, Element.matrix m ∉ (Document.ofCommands cs).elements)
    (hfit : ∀ e ∈ (Document.ofCommands cs).elements,
      Dot.Holds (e.origin.x + p.x) ∧ Dot.Holds (e.origin.y + p.y))
    (hbars : ∀ b, .bars b ∈ (Document.ofCommands cs).elements ++
      (Document.ofCommands (.home p :: cs)).elements → b.rightEnd ≤ Dot.greatest)
    (hv : v.Accepted) (hw : (v.moved p.x p.y).Accepted) :
    ∃ picture,
      (⟨generator, .bitmap, background⟩ : Painter).render (.ofCommands (.home p :: cs)) v =
        some picture ∧
      (⟨generator, .bitmap, background⟩ : Painter).render (.ofCommands cs) (v.moved p.x p.y) =
        some picture := by
  obtain ⟨a, ha, hcolor⟩ := pixel?_render generator background (.ofCommands (.home p :: cs)) hv
  obtain ⟨b, hb, hcolor'⟩ := pixel?_render generator background (.ofCommands cs) hw
  have hmovable := movable_of_home hp hhome horigin hmatrix hfit hbars
  have hab : a = b := by
    refine Viewport.ext_pixel? (size_render hv ha) (size_render hw hb) fun x y hs => ?_
    -- The point `(x, y)` of the label with a home shows what stands at `(x, y) - p` without it.
    obtain ⟨x, rfl⟩ : ∃ x', x = x' + p.x := ⟨x - p.x, by omega⟩
    obtain ⟨y, rfl⟩ : ∃ y', y = y' + p.y := ⟨y - p.y, by omega⟩
    rw [hcolor _ _ hs, ← v.pixel?_moved, hcolor' _ _ (Viewport.shows_moved.2 hs)]
    generalize hd : Document.ofCommands (.home p :: cs) = d
    obtain ⟨es, w⟩ := d
    have hes : es = (Document.ofCommands cs).elements.map (Element.moved p.x p.y) := by
      rw [← elements_home hp hhome horigin hfit, hd]
    rw [hes, Document.color_map_moved generator background hmovable]
  exact ⟨a, ha, hab ▸ hb⟩

/-- A turned text, a box and a barcode, with the home on the other side of the origin. -/
theorem render_home_across :
    let generator : Symbol.Generator := fun _ => .ok (.tabulate 2 fun row col => row == col)
    let painter : Painter := ⟨generator, .bitmap, .white⟩
    let cs : List Command := [⟨"FO", "5,6"⟩, ⟨"A0", "R,12"⟩, ⟨"FD", "a b"⟩, ⟨"FS", ""⟩,
      ⟨"GB", "20,0,3"⟩, ⟨"FO", "40,2"⟩, ⟨"BC", "N,30"⟩, ⟨"FD", "12"⟩, ⟨"FS", ""⟩]
    let p : Point := ⟨-9, 7⟩
    let v : Viewport := ⟨60, 40, ⟨-4, 2⟩, 1.0⟩
    (v.Accepted ∧ (v.moved p.x p.y).Accepted) ∧
      (Document.ofCommands cs).elements = [.text ⟨⟨5, 6⟩, "sans-serif", 12, .rotated, "a b"⟩,
        .box ⟨⟨5, 6⟩, 20, 0, 3⟩, .bars ⟨⟨40, 2⟩, 30, 2, "12"⟩] ∧
      ∃ picture, painter.render (.ofCommands (.home p :: cs)) v = some picture ∧
        painter.render (.ofCommands cs) (v.moved p.x p.y) = some picture := by
  intro generator painter cs p v
  have hv : v.Accepted ∧ (v.moved p.x p.y).Accepted := by decide
  have hp : Dot.Holds p.x ∧ Dot.Holds p.y := by decide
  have hhome : ∀ c ∈ cs, c.code ≠ "LH" := by decide
  have horigin : ∀ i < cs.length, (placed? cs i).isSome → ∃ c ∈ cs.take i, c.code = "FO" := by
    decide
  have hes : (Document.ofCommands cs).elements =
      [.text ⟨⟨5, 6⟩, "sans-serif", 12, .rotated, "a b"⟩, .box ⟨⟨5, 6⟩, 20, 0, 3⟩,
        .bars ⟨⟨40, 2⟩, 30, 2, "12"⟩] := by rfl
  have hfit : ∀ e ∈ (Document.ofCommands cs).elements,
      Dot.Holds (e.origin.x + p.x) ∧ Dot.Holds (e.origin.y + p.y) := by
    rw [hes]
    decide
  have hbars : ∀ b, .bars b ∈ (Document.ofCommands cs).elements ++
      (Document.ofCommands (.home p :: cs)).elements → b.rightEnd ≤ Dot.greatest := by
    rw [elements_home hp hhome horigin hfit, hes]
    intro b hb
    have hb : b = ⟨⟨40, 2⟩, 30, 2, "12"⟩ ∨ b = ⟨⟨31, 9⟩, 30, 2, "12"⟩ := by
      simpa [Element.moved, Element.placedAt, Element.origin, Point.moved, p] using hb
    rcases hb with rfl | rfl <;> decide
  have hmatrix : ∀ m, Element.matrix m ∉ (Document.ofCommands cs).elements := by simp [hes]
  exact ⟨hv, hes, render_home generator .white hp hhome horigin hmatrix hfit hbars hv.1 hv.2⟩

end Painter

end LabelRaster

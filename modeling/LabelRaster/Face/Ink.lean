import LabelRaster.Lists
import LabelRaster.Rows

/-!
# Ink

A line of text is laid out from its upper left corner, `u` dots to the right and
`v` dots down. Only a window of the line is drawn; the result is its ink, the
coverage of each dot of the window between 0 and 1, in one buffer.

* `blank?_eq`: which windows a buffer takes;
* `Shows.add?`, `Shows.fill?`: full coverage added to dots of a window shows there and
  nowhere else.
-/

namespace LabelRaster

/-- The most bytes that one buffer takes: as many as 63 bits count. -/
def bufferLimit : Nat := 9223372036854775807

/-- A part of a line: from `left` and `top` up to, but not including, `right` and `bottom`. -/
structure Window where
  left : Nat
  top : Nat
  right : Nat
  bottom : Nat
deriving DecidableEq, Repr

namespace Window

/-- The number of columns; none if the ends are the wrong way round. -/
def width (w : Window) : Nat := w.right - w.left

/-- The number of rows; none if the ends are the wrong way round. -/
def height (w : Window) : Nat := w.bottom - w.top

/-- The window that shows a whole line. -/
def whole (width height : Nat) : Window := ⟨0, 0, width, height⟩

/-- The window without what lies beyond the end of a line. -/
def within (w : Window) (width height : Nat) : Window :=
  { w with right := min w.right width, bottom := min w.bottom height }

/-- Whether a buffer takes the coverage of a window, four bytes a dot. -/
def Fits (w : Window) : Prop := 4 * (w.width * w.height) ≤ bufferLimit

instance (w : Window) : Decidable w.Fits := inferInstanceAs (Decidable (_ ≤ _))

/-- What a line leaves of a window fits if the window does. -/
theorem Fits.within {w : Window} (h : w.Fits) (width height : Nat) :
    (w.within width height).Fits := by
  have hcolumns : (w.within width height).width ≤ w.width :=
    Nat.sub_le_sub_right (Nat.min_le_left ..) _
  have hrows : (w.within width height).height ≤ w.height :=
    Nat.sub_le_sub_right (Nat.min_le_left ..) _
  exact Nat.le_trans (Nat.mul_le_mul_left 4 (Nat.mul_le_mul hcolumns hrows)) h

end Window

/-- The coverage of the dots of a window. -/
@[ext]
structure Ink where
  window : Window
  /-- The coverage row by row. -/
  cells : Array Float32
  size_eq : cells.size = window.width * window.height

namespace Ink

/-- The coverage in column `x` and row `y` of the window; none outside. -/
def coverage (ink : Ink) (x y : Nat) : Float32 :=
  if x < ink.window.width then (ink.cells[y * ink.window.width + x]?).getD 0.0 else 0.0

/-- The ink of a window in which nothing is drawn, however large the window is. -/
def clear (w : Window) : Ink where
  window := w
  cells := Array.replicate (w.width * w.height) 0.0
  size_eq := by simp

/-- The ink of a window in which nothing is drawn, in a buffer of its own. There is none if 64 bits
do not count the dots, or if their coverage, four bytes a dot, is more than a buffer takes. -/
def blank? (w : Window) : Option Ink :=
  let dots := w.width * w.height
  if dots ≤ 18446744073709551615 ∧ 4 * dots ≤ bufferLimit then some (clear w) else none

/-- Ink with some coverage added to one of its cells, up to full coverage. -/
def raise (ink : Ink) (i : Nat) (amount : Float32) : Ink :=
  { ink with
    cells := ink.cells.modify i fun old => if old + amount ≤ 1.0 then old + amount else 1.0
    size_eq := by simp [ink.size_eq] }

/-- The number of the cell of a dot of the line, if it has one. -/
def index? (ink : Ink) (u v : Nat) : Option Nat :=
  let w := ink.window
  let i := (v - w.top) * w.width + (u - w.left)
  if w.left ≤ u ∧ w.top ≤ v ∧ i < ink.cells.size then some i else none

/-- Ink with some coverage added to a dot of the line, if the dot has a cell. -/
def add? (ink : Ink) (u v : Nat) (amount : Float32) : Option Ink :=
  match ink.index? u v with
  | some i => some (ink.raise i amount)
  | none => none

/-- Ink with full coverage added to those dots of row `v` of a part of the line that are on; it
fails at a dot that is not known to be on or off, and at one that is on and has no cell. -/
def fillRow? (dot? : Nat → Nat → Option Bool) (part : Window) (ink : Ink) (v : Nat) : Option Ink :=
  (List.range' part.left part.width).foldlM
    (fun ink u => do if ← dot? u v then ink.add? u v 1.0 else return ink) ink

/-- Ink with full coverage added to those dots of a part of the line that are on, row by row. -/
def fill? (dot? : Nat → Nat → Option Bool) (part : Window) (ink : Ink) : Option Ink :=
  (List.range' part.top part.height).foldlM (fillRow? dot? part) ink

/-- Ink with some coverage added to a dot of the line, unless the dot is outside the window. -/
def add (ink : Ink) (u v : Nat) (amount : Float32) : Ink :=
  let w := ink.window
  if w.left ≤ u ∧ u < w.right ∧ w.top ≤ v ∧ v < w.bottom then
    ink.raise ((v - w.top) * w.width + (u - w.left)) amount
  else ink

/-- Ink that covers fully those dots of a window that satisfy `on`, and no others. -/
structure Shows (ink : Ink) (w : Window) (on : Nat → Nat → Prop) : Prop where
  window_eq : ink.window = w
  coverage_full : ∀ x < w.width, ∀ y < w.height, on (w.left + x) (w.top + y) →
    ink.coverage x y = 1.0
  coverage_none : ∀ x < w.width, ∀ y < w.height, ¬ on (w.left + x) (w.top + y) →
    ink.coverage x y = 0.0

theorem blank?_eq (w : Window) : blank? w = if w.Fits then some (clear w) else none := by
  simp only [blank?, Window.Fits, bufferLimit]
  exact ite_congr (propext ⟨And.right, fun h => ⟨by omega, h⟩⟩) (fun _ => rfl) fun _ => rfl

theorem coverage_of_lt (ink : Ink) {x : Nat} (hx : x < ink.window.width) (y : Nat) :
    ink.coverage x y = (ink.cells[y * ink.window.width + x]?).getD 0.0 := if_pos hx

theorem coverage_number {ink : Ink} {k : Nat} (hk : k < ink.window.width * ink.window.height) :
    ink.coverage (k % ink.window.width) (k / ink.window.width) = (ink.cells[k]?).getD 0.0 := by
  have hw : 0 < ink.window.width := Nat.pos_of_lt_mul_right hk
  rw [coverage_of_lt ink (Nat.mod_lt k hw), Nat.div_add_mod']

theorem coverage_of_height_le {ink : Ink} (x : Nat) {y : Nat} (hy : ink.window.height ≤ y) :
    ink.coverage x y = 0.0 := by
  rw [coverage]
  split
  · rename_i hx
    rw [Array.getElem?_eq_none, Option.getD_none]
    rw [ink.size_eq]
    exact Nat.le_of_not_lt fun hlt => Nat.not_lt.2 hy ((Rows.number_lt_iff hx).1 hlt)
  · rfl

theorem coverage_raise {ink : Ink} {x y u v : Nat} (hx : x < ink.window.width)
    (hu : u < ink.window.width) (hy : y < ink.window.height) (amount : Float32) :
    (ink.raise (v * ink.window.width + u) amount).coverage x y =
      if x = u ∧ y = v then
        if ink.coverage x y + amount ≤ 1.0 then ink.coverage x y + amount else 1.0
      else ink.coverage x y := by
  have hlt : y * ink.window.width + x < ink.cells.size := by
    rw [ink.size_eq]
    exact (Rows.number_lt_iff hx).2 hy
  rw [coverage_of_lt ink hx, coverage_of_lt (ink.raise _ _) hx]
  change ((ink.cells.modify _ _)[y * ink.window.width + x]?).getD 0.0 = _
  rw [Array.getElem?_modify, Array.getElem?_eq_getElem hlt]
  by_cases h : x = u ∧ y = v
  · rw [if_pos h, if_pos ((Rows.number_inj hu hx).2 ⟨h.1.symm, h.2.symm⟩)]
    rfl
  · rw [if_neg h, if_neg fun hn => h ((Rows.number_inj hx hu).1 hn.symm)]

/-- Only what is on inside the window matters. -/
theorem Shows.congr {ink : Ink} {w : Window} {on on' : Nat → Nat → Prop} (h : ink.Shows w on)
    (hon : ∀ u v, w.left ≤ u ∧ u < w.right → w.top ≤ v ∧ v < w.bottom → (on u v ↔ on' u v)) :
    ink.Shows w on' := by
  have hiff : ∀ x < w.width, ∀ y < w.height,
      (on (w.left + x) (w.top + y) ↔ on' (w.left + x) (w.top + y)) := by
    intro x hx y hy
    simp only [Window.width, Window.height] at hx hy
    exact hon _ _ (by omega) (by omega)
  exact ⟨h.window_eq, fun x hx y hy ho => h.coverage_full x hx y hy ((hiff x hx y hy).2 ho),
    fun x hx y hy ho => h.coverage_none x hx y hy (mt (hiff x hx y hy).1 ho)⟩

theorem Shows.coverage_eq {ink : Ink} {w : Window} {on : Nat → Nat → Prop} (h : ink.Shows w on)
    (x y : Nat) [Decidable (on (w.left + x) (w.top + y))] :
    ink.coverage x y = if x < w.width ∧ y < w.height then
      if on (w.left + x) (w.top + y) then 1.0 else 0.0 else 0.0 := by
  obtain ⟨rfl, hfull, hnone⟩ := h
  by_cases hx : x < ink.window.width
  · by_cases hy : y < ink.window.height
    · rw [if_pos ⟨hx, hy⟩]
      split
      · rename_i hon
        exact hfull x hx y hy hon
      · rename_i hon
        exact hnone x hx y hy hon
    · rw [if_neg fun h => hy h.2, coverage_of_height_le x (Nat.le_of_not_lt hy)]
  · rw [if_neg fun h => hx h.1, coverage, if_neg hx]

/-- Two inks that show the same are the same. -/
theorem Shows.unique {ink ink' : Ink} {w : Window} {on : Nat → Nat → Prop} (h : ink.Shows w on)
    (h' : ink'.Shows w on) : ink = ink' := by
  have hcells : ink.cells = ink'.cells := by
    classical
    have hsize : ink.cells.size = w.width * w.height := h.window_eq ▸ ink.size_eq
    have hsize' : ink'.cells.size = w.width * w.height := h'.window_eq ▸ ink'.size_eq
    refine Array.ext (hsize.trans hsize'.symm) fun k hk hk' => ?_
    have hget := coverage_number (ink.size_eq ▸ hk)
    have hget' := coverage_number (ink'.size_eq ▸ hk')
    rw [h.coverage_eq, Array.getElem?_eq_getElem hk, h.window_eq] at hget
    rw [h'.coverage_eq, Array.getElem?_eq_getElem hk', h'.window_eq] at hget'
    exact hget.symm.trans hget'
  exact Ink.ext (h.window_eq.trans h'.window_eq.symm) hcells

theorem shows_clear (w : Window) : (clear w).Shows w fun _ _ => False where
  window_eq := rfl
  coverage_full _ _ _ _ h := h.elim
  coverage_none x hx y hy _ := by
    rw [coverage_of_lt (clear w) hx]
    simp only [clear, Array.getElem?_replicate, Rows.number_lt_iff hx, hy, if_pos,
      Option.getD_some]

/-- Coverage that is full or none, with full coverage added, is full. -/
theorem raised_of_full_or_none {old : Float32} (h : old = 1.0 ∨ old = 0.0) :
    (if old + 1.0 ≤ 1.0 then old + 1.0 else 1.0) = (1.0 : Float32) := by
  rcases h with rfl | rfl <;> decide +kernel

/-- A dot of the window has a cell, and takes full coverage without a change to the others. -/
theorem Shows.add? {ink : Ink} {w : Window} {on : Nat → Nat → Prop} (h : ink.Shows w on) {u v : Nat}
    (hu : w.left ≤ u ∧ u < w.right) (hv : w.top ≤ v ∧ v < w.bottom) :
    ∃ ink', ink.add? u v 1.0 = some ink' ∧
      ink'.Shows w fun u' v' => on u' v' ∨ u' = u ∧ v' = v := by
  obtain ⟨rfl, hfull, hnone⟩ := h
  have hcol : u - ink.window.left < ink.window.width := by
    rw [Window.width]
    omega
  have hrow : v - ink.window.top < ink.window.height := by
    rw [Window.height]
    omega
  have hindex : ink.index? u v =
      some ((v - ink.window.top) * ink.window.width + (u - ink.window.left)) := by
    refine if_pos ⟨hu.1, hv.1, ?_⟩
    rw [ink.size_eq]
    exact (Rows.number_lt_iff hcol).2 hrow
  have hadd : ink.add? u v 1.0 = some (ink.raise
      ((v - ink.window.top) * ink.window.width + (u - ink.window.left)) 1.0) := by
    rw [Ink.add?, hindex]
  refine ⟨_, hadd, rfl, fun x hx y hy hon => ?_, fun x hx y hy hon => ?_⟩
  · rw [coverage_raise hx hcol hy]
    split
    · refine raised_of_full_or_none ?_
      by_cases ho : on (ink.window.left + x) (ink.window.top + y)
      · exact .inl (hfull x hx y hy ho)
      · exact .inr (hnone x hx y hy ho)
    · rename_i hne
      exact hfull x hx y hy (hon.resolve_right fun he => hne (by omega))
  · rw [coverage_raise hx hcol hy, if_neg fun he => hon (.inr (by omega))]
    exact hnone x hx y hy fun ho => hon (.inl ho)

section Fill

variable {ink : Ink} {w : Window} {on : Nat → Nat → Prop} {dot? : Nat → Nat → Option Bool}
  {b : Nat → Nat → Bool}

theorem Shows.fillRow? (h : ink.Shows w on) {part : Window} (hleft : w.left ≤ part.left)
    (hright : part.right ≤ w.right) {v : Nat} (hv : w.top ≤ v ∧ v < w.bottom)
    (hdot : ∀ u, part.left ≤ u → u < part.right → dot? u v = some (b u v)) :
    ∃ ink', ink.fillRow? dot? part v = some ink' ∧ ink'.Shows w fun u' v' => on u' v' ∨
      (part.left ≤ u' ∧ u' < part.right) ∧ v' = v ∧ b u' v' = true := by
  -- Before dot `u`, the dots to its left are done.
  let done (u : Nat) (ink : Ink) : Prop := ink.Shows w fun u' v' => on u' v' ∨
    (part.left ≤ u' ∧ u' < u) ∧ v' = v ∧ b u' v' = true
  have hstep : ∀ u ink, part.left ≤ u → u < part.left + part.width → done u ink →
      ∃ ink', (do if ← dot? u v then ink.add? u v 1.0 else return ink) = some ink' ∧
        done (u + 1) ink' := by
    intro u ink hu hlt hdone
    rw [Window.width] at hlt
    rw [hdot u hu (by omega), Option.bind_eq_bind, Option.bind_some]
    cases hb : b u v with
    | true =>
      have hin : w.left ≤ u ∧ u < w.right := by omega
      obtain ⟨ink', hadd, hshows⟩ := hdone.add? hin hv
      exact ⟨ink', hadd, hshows.congr fun u' v' _ _ => by grind⟩
    | false => exact ⟨ink, rfl, hdone.congr fun u' v' _ _ => by grind⟩
  have hinit : done part.left ink := h.congr fun u' v' _ _ => by grind
  obtain ⟨ink', hloop, hdone⟩ := Lists.exists_foldlM_range' _ _ hstep hinit
  refine ⟨ink', hloop, hdone.congr fun u' v' _ _ => ?_⟩
  rw [Window.width]
  grind

/-- A part of the window takes those of its dots that are on without a change to the rest. -/
theorem Shows.fill? (h : ink.Shows w on) (part : Window) (hleft : w.left ≤ part.left)
    (hright : part.right ≤ w.right) (htop : w.top ≤ part.top) (hbottom : part.bottom ≤ w.bottom)
    (hdot : ∀ u v, part.left ≤ u ∧ u < part.right → part.top ≤ v ∧ v < part.bottom →
      dot? u v = some (b u v)) :
    ∃ ink', ink.fill? dot? part = some ink' ∧ ink'.Shows w fun u v => on u v ∨
      (part.left ≤ u ∧ u < part.right) ∧ (part.top ≤ v ∧ v < part.bottom) ∧ b u v = true := by
  -- Before row `v`, the rows above it are done.
  let done (v : Nat) (ink : Ink) : Prop := ink.Shows w fun u' v' => on u' v' ∨
    (part.left ≤ u' ∧ u' < part.right) ∧ (part.top ≤ v' ∧ v' < v) ∧ b u' v' = true
  have hstep : ∀ v ink, part.top ≤ v → v < part.top + part.height → done v ink →
      ∃ ink', ink.fillRow? dot? part v = some ink' ∧ done (v + 1) ink' := by
    intro v ink hv hlt hdone
    rw [Window.height] at hlt
    have hin : w.top ≤ v ∧ v < w.bottom := by omega
    obtain ⟨ink', hrow, hshows⟩ := hdone.fillRow? hleft hright hin
      fun u hu hul => hdot u v ⟨hu, hul⟩ ⟨hv, by omega⟩
    exact ⟨ink', hrow, hshows.congr fun u' v' _ _ => by grind⟩
  have hinit : done part.top ink := h.congr fun u' v' _ _ => by grind
  obtain ⟨ink', hloop, hdone⟩ := Lists.exists_foldlM_range' _ _ hstep hinit
  refine ⟨ink', hloop, hdone.congr fun u' v' _ _ => ?_⟩
  rw [Window.height]
  grind

end Fill

end Ink

end LabelRaster

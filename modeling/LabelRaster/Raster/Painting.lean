import LabelRaster.Raster.Canvas

/-!
# Painting

A patch is a rectangle with a colour. Patches are painted one over the other,
`Canvas.paint`; raw pixels are copied to the canvas row by row, up to the first one
that is missing, `Canvas.stamp`. As all pixels after a missing one are missing too
(`ofData?_eq_none_of_le`), no more is lost by stopping there.
-/

namespace LabelRaster

/-- A rectangle with a colour. -/
structure Patch where
  rect : Rect
  color : Color
deriving DecidableEq, Repr

namespace Patch

/-- The colour that patches painted in order leave at a point. -/
def top? (patches : List Patch) (x y : Int) : Option Color :=
  patches.foldl (fun under p => if p.rect.Contains x y then some p.color else under) none

theorem foldl_eq_top?_or (patches : List Patch) (x y : Int) (under : Option Color) :
    patches.foldl (fun under p => if p.rect.Contains x y then some p.color else under) under =
      (top? patches x y).or under := by
  induction patches generalizing under with
  | nil => simp [top?]
  | cons p ps ih =>
    simp only [top?, List.foldl_cons] at ih ⊢
    rw [ih, ih (if p.rect.Contains x y then some p.color else none)]
    split <;> simp

/-- A later patch lies over an earlier one. -/
theorem top?_cons (p : Patch) (ps : List Patch) (x y : Int) :
    top? (p :: ps) x y =
      (top? ps x y).or (if p.rect.Contains x y then some p.color else none) := by
  rw [top?, List.foldl_cons, foldl_eq_top?_or]

/-- The order of patches in one colour does not show. -/
theorem top?_of_color {ps : List Patch} {color : Color} (h : ∀ p ∈ ps, p.color = color)
    (x y : Int) :
    top? ps x y = if ∃ p ∈ ps, p.rect.Contains x y then some color else none := by
  induction ps with
  | nil => simp [top?]
  | cons p ps ih =>
    rw [List.forall_mem_cons] at h
    rw [top?_cons, ih h.2, h.1]
    simp only [List.mem_cons, exists_eq_or_imp]
    by_cases hp : p.rect.Contains x y <;> by_cases hps : ∃ p ∈ ps, p.rect.Contains x y <;>
      simp [hp, hps]

end Patch

namespace Color

/-- The colour of a pixel in raw data, if its four bytes are present. -/
def ofData? (data : Array UInt8) (k : Nat) : Option Color :=
  match data[4 * k]?, data[4 * k + 1]?, data[4 * k + 2]?, data[4 * k + 3]? with
  | some r, some g, some b, some a => some ⟨r, g, b, a⟩
  | _, _, _, _ => none

theorem ofData?_eq_some_iff {data : Array UInt8} {k : Nat} {color : Color} :
    ofData? data k = some color ↔ data[4 * k]? = some color.red ∧
      data[4 * k + 1]? = some color.green ∧ data[4 * k + 2]? = some color.blue ∧
      data[4 * k + 3]? = some color.alpha := by
  rw [ofData?]
  split
  · rename_i hr hg hb ha
    obtain ⟨red, green, blue, alpha⟩ := color
    simp only [hr, hg, hb, ha, Option.some.injEq, Color.mk.injEq]
  · rename_i hmissing
    constructor
    · rintro ⟨⟩
    · rintro ⟨hr, hg, hb, ha⟩
      exact (hmissing _ _ _ _ hr hg hb ha).elim

theorem ofData?_isSome_iff {data : Array UInt8} {k : Nat} :
    (ofData? data k).isSome ↔ 4 * k + 4 ≤ data.size := by
  unfold ofData?
  split
  · rename_i h
    have := (Array.getElem?_eq_some_iff.1 h).1
    simp; omega
  · rename_i h
    simp only [Option.isSome_none, Bool.false_eq_true, false_iff]
    intro hk
    exact h _ _ _ _ (Array.getElem?_eq_getElem (by omega)) (Array.getElem?_eq_getElem (by omega))
      (Array.getElem?_eq_getElem (by omega)) (Array.getElem?_eq_getElem (by omega))

/-- Where a pixel is missing, all that follow are missing too. -/
theorem ofData?_eq_none_of_le {data : Array UInt8} {j k : Nat} (h : ofData? data j = none)
    (hle : j ≤ k) : ofData? data k = none := by
  rw [← Option.not_isSome_iff_eq_none, ofData?_isSome_iff] at h ⊢
  omega

end Color

namespace Canvas

/-- Paints patches one over the other. -/
def paint (c : Canvas) (patches : List Patch) : Canvas :=
  patches.foldl (fun c p => c.fill p.rect p.color) c

/-- A point takes the colour of the last patch that contains it. -/
theorem get?_paint (c : Canvas) (patches : List Patch) (x y : Int) :
    (c.paint patches).get? x y = (c.get? x y).map fun old => (Patch.top? patches x y).getD old := by
  induction patches generalizing c with
  | nil => simp [paint, Patch.top?]
  | cons p ps ih =>
    rw [paint, List.foldl_cons]
    change ((c.fill p.rect p.color).paint ps).get? x y = _
    rw [ih, get?_fill, Patch.top?_cons]
    cases hc : c.get? x y with
    | none => simp
    | some old =>
      by_cases h : p.rect.Contains x y <;> cases ht : Patch.top? ps x y <;> simp [h]

/-- Copies `n` raw pixels of a row, from column `col` on; where one is missing, the copy is done. -/
def stampRow (x y : Int) (width : Nat) (data : Array UInt8) (row : Nat) :
    Nat → Nat → Canvas → ForInStep Canvas
  | 0, _, c => .yield c
  | n + 1, col, c =>
    match Color.ofData? data (row * width + col) with
    | some color => stampRow x y width data row n (col + 1) (c.set (x + col) (y + row) color)
    | none => .done c

/-- Copies `n` rows of raw pixels, from row `row` on, until the copy is done. -/
def stampRows (x y : Int) (width : Nat) (data : Array UInt8) : Nat → Nat → Canvas → Canvas
  | 0, _, c => c
  | n + 1, row, c =>
    match stampRow x y width data row width 0 c with
    | .yield c => stampRows x y width data n (row + 1) c
    | .done c => c

/-- Copies raw pixels to the rectangle of the given size at a point, as far as there are any. -/
def stamp (c : Canvas) (x y : Int) (width height : Nat) (data : Array UInt8) : Canvas :=
  if width = 0 then c else stampRows x y width data height 0 c

/-- The number of the raw pixel that lies at a point, counted in endless rows of `width`. -/
def stampNumber? (x y : Int) (width : Nat) (u v : Int) : Option Nat :=
  if x ≤ u ∧ u < x + width ∧ y ≤ v then some ((v - y).toNat * width + (u - x).toNat) else none

theorem stampNumber?_eq_some_iff {x y : Int} {width : Nat} (hw : 0 < width) {u v : Int} {k : Nat} :
    stampNumber? x y width u v = some k ↔
      u = x + (k % width : Nat) ∧ v = y + (k / width : Nat) := by
  simp only [stampNumber?, Option.ite_none_right_eq_some, Option.some.injEq]
  constructor
  · rintro ⟨⟨hx, hxw, hy⟩, rfl⟩
    have hlt : (u - x).toNat < width := by omega
    rw [Rows.number_mod hlt, Rows.number_div hlt]
    omega
  · rintro ⟨rfl, rfl⟩
    have hlt := Nat.mod_lt k hw
    have h := Nat.div_add_mod k width
    generalize k / width = q at *
    generalize k % width = r at *
    have e : (y + (q : Int) - y).toNat = q := by omega
    have e' : (x + (r : Int) - x).toNat = r := by omega
    rw [e, e', Nat.mul_comm]
    omega

/-- Painting in numbered steps, of which a point is changed by the one with its own number: what `n`
steps from number `k` on do to the point. -/
theorem get?_steps (run : Nat → Nat → Canvas → Canvas) {step : Nat → Canvas → Canvas}
    {number? : Option Nat} {change : Nat → Color → Color} {u v : Int}
    (hzero : ∀ k c, run 0 k c = c) (hsucc : ∀ n k c, run (n + 1) k c = run n (k + 1) (step k c))
    (hstep : ∀ k c, (step k c).get? u v =
      if number? = some k then (c.get? u v).map (change k) else c.get? u v) (n k : Nat)
    (c : Canvas) :
    (run n k c).get? u v = (c.get? u v).map fun old =>
      (number?.bind fun j => if k ≤ j ∧ j < k + n then some (change j old) else none).getD old := by
  induction n generalizing k c with
  | zero =>
    have h (j : Nat) : ¬ (k ≤ j ∧ j < k + 0) := by omega
    simp only [hzero, if_neg (h _), Option.bind_fun_none, Option.getD_none, Option.map_id']
  | succ n ih =>
    rw [hsucc, ih, hstep]
    by_cases hk : number? = some k
    · have h : ¬ (k + 1 ≤ k ∧ k < k + 1 + n) := by omega
      have h' : k ≤ k ∧ k < k + (n + 1) := by omega
      rw [if_pos hk, hk, Option.map_map]
      simp only [Function.comp_def, Option.bind_some, if_neg h, if_pos h', Option.getD_none,
        Option.getD_some]
    · rw [if_neg hk]
      cases hj : number? with
      | none => simp only [Option.bind_none]
      | some j =>
        have hne : j ≠ k := fun h => hk (h ▸ hj)
        have : (k + 1 ≤ j ∧ j < k + 1 + n) ↔ (k ≤ j ∧ j < k + (n + 1)) := by omega
        simp only [Option.bind_some, this]

theorem get?_stampRow (x y : Int) (width : Nat) (data : Array UInt8) (row n col : Nat) (c : Canvas)
    (u v : Int) :
    (stampRow x y width data row n col c).value.get? u v =
      if v = y + row ∧ x + col ≤ u ∧ u < x + col + n then
        (c.get? u v).map (Color.ofData? data (row * width + (u - x).toNat)).getD
      else c.get? u v := by
  induction n generalizing col c with
  | zero => rw [if_neg (by omega)]; rfl
  | succ n ih =>
    rw [stampRow]
    cases hcolor : Color.ofData? data (row * width + col) with
    | some color =>
      simp only [ih, get?_set]
      by_cases hhere : u = x + col ∧ v = y + row
      · have hcol : (u - x).toNat = col := by omega
        rw [if_neg (by omega), if_pos hhere, if_pos (by omega), hcol, hcolor]
        rfl
      · rw [if_neg hhere]
        by_cases hrow : v = y + row ∧ x + (col + 1 : Nat) ≤ u ∧ u < x + (col + 1 : Nat) + n
        · rw [if_pos hrow, if_pos (by omega)]
        · rw [if_neg hrow, if_neg (by omega)]
    | none =>
      -- the pixels of the row that are left are missing too
      change c.get? u v = _
      by_cases hrow : v = y + row ∧ x + col ≤ u ∧ u < x + col + (n + 1 : Nat)
      · have hmissing : Color.ofData? data (row * width + (u - x).toNat) = none :=
          Color.ofData?_eq_none_of_le hcolor (by omega)
        rw [if_pos hrow, hmissing]
        exact Option.map_id'.symm
      · rw [if_neg hrow]

/-- A row comes to an early end at a missing pixel only. -/
theorem exists_missing_of_stampRow {x y : Int} {width : Nat} {data : Array UInt8} {row n col : Nat}
    {c d : Canvas} (h : stampRow x y width data row n col c = .done d) :
    ∃ j < col + n, Color.ofData? data (row * width + j) = none := by
  induction n generalizing col c with
  | zero => cases h
  | succ n ih =>
    rw [stampRow] at h
    cases hcolor : Color.ofData? data (row * width + col) with
    | some color =>
      rw [hcolor] at h
      obtain ⟨j, hj, hmissing⟩ := ih h
      exact ⟨j, by omega, hmissing⟩
    | none => exact ⟨col, by omega, hcolor⟩

theorem get?_stampRows (x y : Int) (width : Nat) (data : Array UInt8) (n row : Nat) (c : Canvas)
    (u v : Int) :
    (stampRows x y width data n row c).get? u v =
      if (x ≤ u ∧ u < x + width) ∧ y + row ≤ v ∧ v < y + row + n then
        (c.get? u v).map (Color.ofData? data ((v - y).toNat * width + (u - x).toNat)).getD
      else c.get? u v := by
  induction n generalizing row c with
  | zero => rw [stampRows, if_neg (by omega)]
  | succ n ih =>
    have hrow := get?_stampRow x y width data row width 0 c u v
    rw [stampRows]
    cases hstep : stampRow x y width data row width 0 c with
    | yield d =>
      rw [hstep] at hrow
      change d.get? u v = _ at hrow
      simp only [ih, hrow]
      by_cases hv : v = y + row
      · have hnumber : (v - y).toNat = row := by omega
        rw [if_neg (by omega), hnumber]
        exact ite_congr (propext (by omega)) (fun _ => rfl) fun _ => rfl
      · rw [if_neg (c := v = y + row ∧ _) (fun h => hv h.1)]
        exact ite_congr (propext (by omega)) (fun _ => rfl) fun _ => rfl
    | done d =>
      rw [hstep] at hrow
      change d.get? u v = _ at hrow
      simp only [hrow]
      by_cases hv : v = y + row
      · have hnumber : (v - y).toNat = row := by omega
        rw [hnumber]
        exact ite_congr (propext (by omega)) (fun _ => rfl) fun _ => rfl
      · rw [if_neg (fun h => hv h.1)]
        by_cases hbelow : (x ≤ u ∧ u < x + width) ∧ y + row ≤ v ∧ v < y + row + (n + 1 : Nat)
        · -- the copy ended in an earlier row, so that no row below has a pixel
          obtain ⟨j, hj, hmissing⟩ := exists_missing_of_stampRow hstep
          have hrows : (row + 1) * width ≤ (v - y).toNat * width :=
            Nat.mul_le_mul_right width (by omega)
          rw [Nat.add_mul, Nat.one_mul] at hrows
          rw [if_pos hbelow, Color.ofData?_eq_none_of_le hmissing (by omega)]
          exact Option.map_id'.symm
        · rw [if_neg hbelow]

/-- A point takes the colour of the pixel that lies there, if it is present. -/
theorem get?_stamp (c : Canvas) (x y : Int) (width height : Nat) (data : Array UInt8) (u v : Int) :
    (c.stamp x y width height data).get? u v =
      (c.get? u v).map fun old => ((stampNumber? x y width u v).bind fun j =>
        if j < width * height then Color.ofData? data j else none).getD old := by
  have hstamp : (c.stamp x y width height data).get? u v =
      if (x ≤ u ∧ u < x + width) ∧ y ≤ v ∧ v < y + height then
        (c.get? u v).map (Color.ofData? data ((v - y).toNat * width + (u - x).toNat)).getD
      else c.get? u v := by
    rw [stamp]
    split
    · rw [if_neg (by omega)]
    · rw [get?_stampRows]
      exact ite_congr (propext (by omega)) (fun _ => rfl) fun _ => rfl
  rw [hstamp, stampNumber?]
  by_cases hcols : x ≤ u ∧ u < x + width ∧ y ≤ v
  · have hlt : (u - x).toNat < width := by omega
    have hnumber : (v - y).toNat * width + (u - x).toNat < width * height ↔ v < y + height := by
      rw [Rows.number_lt_iff hlt]
      omega
    simp only [if_pos hcols, Option.bind_some, hnumber]
    by_cases hv : v < y + height
    · rw [if_pos (by omega), if_pos hv]
    · rw [if_neg (by omega), if_neg hv]
      exact Option.map_id'.symm
  · rw [if_neg (by omega), if_neg hcols]
    exact Option.map_id'.symm

end Canvas

end LabelRaster

import LabelRaster.Label.Extent

/-!
# The rectangle around the content

The rectangle around some elements is the least one around their own rectangles: it
lies within another rectangle exactly when each of them does
(`contentBounds?_within_iff`). It may be put together from those of two parts
(`contentBounds?_append`), so that it does not matter where an element stands, nor how
often it is there: the elements that are there tell it (`contentBounds?_eq_some_iff`).
-/

namespace LabelRaster

namespace Rect

/-- Whether a rectangle reaches no further than another one, to any side. -/
def Within (r s : Rect) : Prop :=
  s.left ≤ r.left ∧ s.top ≤ r.top ∧ r.right ≤ s.right ∧ r.bottom ≤ s.bottom

variable {r s t : Rect}

theorem union_within_iff : (r.union s).Within t ↔ r.Within t ∧ s.Within t := by
  simp only [Within, union]
  omega

theorem foldl_union_within_iff {rs : List Rect} :
    (rs.foldl union r).Within t ↔ r.Within t ∧ ∀ s ∈ rs, s.Within t := by
  induction rs generalizing r with
  | nil => simp
  | cons s rs ih => rw [List.foldl_cons, ih, union_within_iff, List.forall_mem_cons, and_assoc]

theorem hull?_within_iff {rs : List Rect} (h : hull? rs = some r) :
    r.Within t ↔ ∀ s ∈ rs, s.Within t := by
  cases rs with
  | nil => cases h
  | cons s rs =>
    obtain rfl := Option.some.inj h
    rw [foldl_union_within_iff, List.forall_mem_cons]

instance : Std.Commutative union :=
  ⟨fun r s => by simp only [union, Int.min_comm, Int.max_comm]⟩

instance : Std.Associative union :=
  ⟨fun r s t => by simp only [union, Int.min_assoc, Int.max_assoc]⟩

theorem hull?_cons (r : Rect) (rs : List Rect) :
    hull? (r :: rs) = (some r).merge union (hull? rs) := by
  cases rs with
  | nil => rfl
  | cons s rs => exact congrArg some List.foldl_assoc

theorem hull?_append (rs ss : List Rect) :
    hull? (rs ++ ss) = (hull? rs).merge union (hull? ss) := by
  induction rs with
  | nil => exact Option.merge_none_left.symm
  | cons r rs ih =>
    rw [List.cons_append, hull?_cons, hull?_cons, ih]
    ac_rfl

end Rect

/-- The content lies in a rectangle exactly when each element does. -/
theorem contentBounds?_within_iff {generator : Symbol.Generator} {es : List Element} {r t : Rect}
    (h : contentBounds? generator es = some r) :
    r.Within t ↔ ∀ e ∈ es, ∀ s ∈ e.bounds? generator, s.Within t := by
  rw [Rect.hull?_within_iff h]
  exact List.forall_mem_filterMap

/-- The content of two parts is put together from that of each. -/
theorem contentBounds?_append (generator : Symbol.Generator) (es fs : List Element) :
    contentBounds? generator (es ++ fs) =
      (contentBounds? generator es).merge Rect.union (contentBounds? generator fs) := by
  rw [contentBounds?, List.filterMap_append, Rect.hull?_append]
  rfl

theorem contentBounds?_singleton (generator : Symbol.Generator) (e : Element) :
    contentBounds? generator [e] = e.bounds? generator := by
  rw [contentBounds?, List.filterMap_cons, List.filterMap_nil]
  cases e.bounds? generator <;> rfl

/-- It does not matter where an element stands among the others. -/
theorem contentBounds?_insert (generator : Symbol.Generator) (before after : List Element)
    (e : Element) :
    contentBounds? generator (before ++ e :: after) =
      (e.bounds? generator).merge Rect.union (contentBounds? generator (before ++ after)) := by
  rw [List.append_cons]
  simp only [contentBounds?_append, contentBounds?_singleton]
  ac_rfl

/-- The rectangle that reaches as far as positions do. -/
def Dot.positions : Rect := ⟨least, least, greatest, greatest⟩

/-- An element that is placed at a position reaches no further than positions do. -/
theorem Element.within_positions {generator : Symbol.Generator} {e : Element}
    (hx : Dot.Holds e.origin.x) (hy : Dot.Holds e.origin.y) :
    ∀ r ∈ e.bounds? generator, r.Within Dot.positions := by
  intro r hr
  obtain ⟨⟨width, height⟩, -, rfl⟩ := Option.map_eq_some_iff.1 hr
  have hright := Dot.holds_add e.origin.x width
  have hbottom := Dot.holds_add e.origin.y height
  simp only [Dot.Holds] at hx hy hright hbottom
  simp only [Rect.Within, Rect.ofCorners, Dot.positions]
  omega

/-! ## Any elements, in any order -/

namespace Rect

theorem Within.refl (r : Rect) : r.Within r :=
  ⟨Int.le_refl _, Int.le_refl _, Int.le_refl _, Int.le_refl _⟩

theorem Within.antisymm {r s : Rect} (h : r.Within s) (h' : s.Within r) : r = s := by
  obtain ⟨hleft, htop, hright, hbottom⟩ := h
  obtain ⟨hleft', htop', hright', hbottom'⟩ := h'
  rw [Rect.mk.injEq]
  omega

/-- Whether a point lies in a rectangle or on its edges, the right and the bottom one included. -/
def Reaches (r : Rect) (p : Point) : Prop :=
  r.left ≤ p.x ∧ p.x ≤ r.right ∧ r.top ≤ p.y ∧ p.y ≤ r.bottom

theorem Reaches.within {r s : Rect} {p : Point} (h : r.Reaches p) (hs : r.Within s) :
    s.Reaches p := by
  simp only [Reaches, Within] at *
  omega

theorem reaches_ofCorners (p q : Point) : (ofCorners p q).Reaches p := by
  simp only [Reaches, ofCorners]
  omega

end Rect

section Surrounds

variable {generator : Symbol.Generator} {es fs : List Element} {r : Rect}

theorem Element.bounds?_eq_none_iff {e : Element} :
    e.bounds? generator = none ↔ e.extent? generator = none := Option.map_eq_none_iff

theorem Element.exists_bounds {e : Element} (h : e.extent? generator ≠ none) :
    ∃ r, e.bounds? generator = some r :=
  Option.ne_none_iff_exists'.1 (mt bounds?_eq_none_iff.1 h)

/-- The origin of an element is a corner of its rectangle. -/
theorem Element.reaches_origin {e : Element} (h : e.bounds? generator = some r) :
    r.Reaches e.origin := by
  obtain ⟨size, -, rfl⟩ := Option.map_eq_some_iff.1 h
  exact Rect.reaches_ofCorners ..

theorem contentBounds?_eq_none_iff :
    contentBounds? generator es = none ↔ ∀ e ∈ es, e.extent? generator = none := by
  have hhull (rs : List Rect) : Rect.hull? rs = none ↔ rs = [] := by
    cases rs with
    | nil => exact iff_of_true rfl rfl
    | cons r rs => exact iff_of_false nofun nofun
  rw [contentBounds?, hhull, List.filterMap_eq_nil_iff]
  simp only [Element.bounds?_eq_none_iff]

/-- Which elements are there tells the rectangle around them: their order does not. -/
theorem contentBounds?_eq_some_iff :
    contentBounds? generator es = some r ↔
      (∃ e ∈ es, e.extent? generator ≠ none) ∧
        ∀ t, r.Within t ↔ ∀ e ∈ es, ∀ s ∈ e.bounds? generator, s.Within t := by
  have hsome : contentBounds? generator es ≠ none ↔ ∃ e ∈ es, e.extent? generator ≠ none := by
    simp only [ne_eq, contentBounds?_eq_none_iff, Classical.not_forall, exists_prop]
  rw [← hsome]
  constructor
  · intro h
    exact ⟨h ▸ Option.some_ne_none r, fun t => contentBounds?_within_iff h⟩
  · rintro ⟨hne, hr⟩
    cases hes : contentBounds? generator es with
    | none => exact absurd hes hne
    | some s =>
      have hs (t : Rect) := contentBounds?_within_iff (t := t) hes
      have hrs : r.Within s := (hr s).2 ((hs s).1 (.refl s))
      have hsr : s.Within r := (hs r).2 ((hr r).1 (.refl r))
      rw [hsr.antisymm hrs]

/-- Neither the order of the elements nor how often they are there matters. -/
theorem contentBounds?_congr (h : ∀ e, e ∈ fs ↔ e ∈ es) :
    contentBounds? generator fs = contentBounds? generator es := by
  refine Option.ext fun r => ?_
  simp only [contentBounds?_eq_some_iff, h]

/-- A rectangle is the least one around what some elements cover. -/
structure Surrounds (generator : Symbol.Generator) (es : List Element) (r : Rect) : Prop where
  bounds_within : ∀ e ∈ es, ∀ s ∈ e.bounds? generator, s.Within r
  /-- Any rectangle around the elements lies around it. -/
  within : ∀ t, (∀ e ∈ es, ∀ s ∈ e.bounds? generator, s.Within t) → r.Within t
  left_le_right : r.left ≤ r.right
  top_le_bottom : r.top ≤ r.bottom
  reaches : ∀ e ∈ es, e.extent? generator ≠ none → r.Reaches e.origin

theorem surrounds_contentBounds (h : contentBounds? generator es = some r) :
    Surrounds generator es r := by
  have hwithin : ∀ e ∈ es, ∀ s ∈ e.bounds? generator, s.Within r :=
    (contentBounds?_within_iff h).1 (.refl r)
  obtain ⟨⟨e, he, hextent⟩, -⟩ := contentBounds?_eq_some_iff.1 h
  obtain ⟨s, hs⟩ := Element.exists_bounds hextent
  obtain ⟨hleft, htop, hright, hbottom⟩ := hwithin e he s hs
  have hcolumns := Element.left_le_right_of_bounds hs
  have hrows := Element.top_le_bottom_of_bounds hs
  refine ⟨hwithin, fun t => (contentBounds?_within_iff h).2, by omega, by omega, ?_⟩
  intro e he hextent
  obtain ⟨s, hs⟩ := Element.exists_bounds hextent
  exact (Element.reaches_origin hs).within (hwithin e he s hs)

theorem within_positions_contentBounds
    (hes : ∀ e ∈ es, Dot.Holds e.origin.x ∧ Dot.Holds e.origin.y)
    (h : contentBounds? generator es = some r) : r.Within Dot.positions :=
  (contentBounds?_within_iff h).2 fun e he => Element.within_positions (hes e he).1 (hes e he).2

end Surrounds

/-- There is a rectangle around some elements unless none of them covers anything. It is the least
one around what they cover, and its sides fit into 32 bits. It does not matter in which order
the elements stand and which of them are repeated, and the elements may be taken in two parts. -/
theorem contentBounds?_surrounds (generator : Symbol.Generator) (es : List Element) :
    (contentBounds? generator es = none ↔ ∀ e ∈ es, e.extent? generator = none) ∧
    (∀ r, contentBounds? generator es = some r →
      Surrounds generator es r ∧
      ((∀ e ∈ es, Dot.Holds e.origin.x ∧ Dot.Holds e.origin.y) →
        (0 ≤ r.width ∧ r.width ≤ 4294967295) ∧ 0 ≤ r.height ∧ r.height ≤ 4294967295)) ∧
    (∀ fs, (∀ e, e ∈ fs ↔ e ∈ es) → contentBounds? generator fs = contentBounds? generator es) ∧
    ∀ fs, contentBounds? generator (es ++ fs) =
      (contentBounds? generator es).merge Rect.union (contentBounds? generator fs) := by
  refine ⟨contentBounds?_eq_none_iff, fun r h => ⟨surrounds_contentBounds h, fun hes => ?_⟩,
    fun fs => contentBounds?_congr, contentBounds?_append generator es⟩
  have hr := surrounds_contentBounds h
  have hleft := hr.left_le_right
  have htop := hr.top_le_bottom
  obtain ⟨hl, ht, hright, hbottom⟩ := within_positions_contentBounds hes h
  simp only [Dot.positions, Dot.least, Dot.greatest] at hl ht hright hbottom
  simp only [Rect.width, Rect.height]
  omega

/-- Two boxes that are cut off at the outermost positions, and a symbol that cannot be encoded. -/
theorem contentBounds?_surrounds_far :
    let generator : Symbol.Generator := fun _ => .error .tooLong
    let before : Element := .box ⟨⟨-2147483640, 5⟩, -20, 3, 1⟩
    let beyond : Element := .box ⟨⟨2147483640, 9⟩, 20, -6, 1⟩
    let refused : Element := .matrix ⟨⟨70, 90⟩, 4, none, "x"⟩
    let r : Rect := ⟨-2147483648, 3, 2147483647, 9⟩
    contentBounds? generator [refused] = none ∧
      contentBounds? generator [before, refused, beyond] = some r ∧
      (∀ e ∈ [before, refused, beyond], Dot.Holds e.origin.x ∧ Dot.Holds e.origin.y) ∧
      Surrounds generator [before, refused, beyond] r ∧ r.width ≤ 4294967295 ∧
      contentBounds? generator [beyond, refused, before, beyond] = some r := by
  intro generator before beyond refused r
  have hr : contentBounds? generator [before, refused, beyond] = some r := by decide
  have hplaced : ∀ e ∈ [before, refused, beyond], Dot.Holds e.origin.x ∧ Dot.Holds e.origin.y := by
    decide
  obtain ⟨-, hsome, hsame, -⟩ :=
    contentBounds?_surrounds generator [before, refused, beyond]
  obtain ⟨hsurrounds, hsides⟩ := hsome r hr
  refine ⟨(contentBounds?_surrounds generator [refused]).1.2 (by decide), hr, hplaced, hsurrounds,
    (hsides hplaced).1.2, ?_⟩
  rw [hsame [beyond, refused, before, beyond] fun e => ?_, hr]
  simp only [List.mem_cons, List.not_mem_nil, or_false]
  grind

end LabelRaster

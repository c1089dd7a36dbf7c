import LabelRaster.Proofs.History

/-!
# How fields are committed

What a label places, told by its commands alone. A box and a picture are placed by their
own command; a separator places a field if data was given since the separator before it,
and the kind of that field is the one announced last in the same stretch (`outlines`).
The position and the sizes of an element come from the last command that wrote the
setting (`Settled`).
-/

namespace LabelRaster

/-- The kind of an element and its content. -/
inductive Outline where
  | text (content : String)
  | box
  | bars (content : String)
  | matrix (content : String)
  | picture
deriving DecidableEq, Repr

/-- The kind of an element and its content, without position and sizes. -/
def Element.outline : Element → Outline
  | .text f => .text f.content
  | .box _ => .box
  | .bars f => .bars f.content
  | .matrix f => .matrix f.content
  | .picture _ => .picture

namespace History

/-! ## Kinds and contents -/

/-- The field that a separator places: its kind is that of the last command that announced one. -/
def field (past : List Command) (content : String) : Outline :=
  match (announcement? past).map Command.code with
  | some "BC" => .bars content
  | some "BQ" => .matrix (String.ofList (Payload.payload content.toList))
  | _ => .text content

/-- What a command places after the commands `past`. -/
def outline? (past : List Command) (c : Command) : Option Outline :=
  if c.code = "GB" then some .box
  else if c.code = "GF" then some .picture
  else if c.code = "FS" then (data? past).map (field past)
  else none

/-- What the commands of a label place, in order. -/
def outlines (cs : List Command) : List Outline :=
  (List.range cs.length).filterMap fun i => cs[i]?.bind (outline? (cs.take i))

theorem announcement?_code {past : List Command} {c : Command} (h : announcement? past = some c) :
    c.code = "BC" ∨ c.code = "BQ" ∨ c.code = "GF" := by
  have hc := List.mem_of_getLast? h
  obtain ⟨a, -, ha⟩ := List.mem_filterMap.1 hc
  split at ha
  · rename_i hm
    cases ha
    simpa using hm
  · cases ha

theorem outline_field (past : List Command) (content : String) :
    ((layout past).field content).outline = field past content := by
  simp only [Layout.field, layout, pending, field]
  cases h : announcement? past with
  | none => rfl
  | some c =>
    rcases announcement?_code h with hc | hc | hc <;> simp [kindOf, hc, Element.outline]

/-- The layout places what the commands before it tell. -/
theorem outline_placed (past : List Command) (c : Command) :
    ((layout past).placed (Directive.ofCommand c)).map Element.outline = outline? past c := by
  unfold Directive.ofCommand
  split
  case h_11 h =>
    simp only [Layout.placed, outline?, h, Option.map_map, layout]
    congr 1
    funext content
    exact outline_field past content
  case h_12 =>
    split <;> simp_all [Layout.placed, outline?]
  all_goals
    rename_i h
    simp [Layout.placed, outline?, h, Element.outline]

theorem outlines_elements (cs : List Command) :
    (Document.ofCommands cs).elements.map Element.outline = outlines cs := by
  rw [elements_ofCommands, List.map_filterMap, outlines]
  refine List.filterMap_congr fun i hi => ?_
  have hi := List.getElem?_eq_getElem (List.mem_range.1 hi)
  rw [placed?_eq hi, outline_placed, hi, Option.bind_some]

/-! ## Separators cut a label -/

theorem stretch_append {cs : List Command} {c : Command} (hc : c.code = "FS")
    (ds : List Command) : stretch (cs ++ [c] ++ ds) = stretch ds := by
  induction ds using List.reverseRecOn with
  | nil => simp [hc, stretch]
  | append_singleton ds d ih => rw [← List.append_assoc, stretch_concat, stretch_concat, ih]

/-- A separator cuts a label in two: what is placed after it is told without what stood before. -/
theorem outline?_append {cs : List Command} {c : Command} (hc : c.code = "FS")
    (ds : List Command) : outline? (cs ++ [c] ++ ds) = outline? ds := by
  have hf : field (cs ++ [c] ++ ds) = field ds := by
    funext content
    simp only [field, announcement?, stretch_append hc]
  funext d
  simp only [outline?, hf, data?, stretch_append hc]

theorem outlines_append {cs : List Command} {c : Command} (hc : c.code = "FS")
    (ds : List Command) : outlines (cs ++ [c] ++ ds) = outlines (cs ++ [c]) ++ outlines ds := by
  have hout (j : Nat) : outline? ((cs ++ [c] ++ ds).take ((cs ++ [c]).length + j)) =
      outline? (ds.take j) := by
    rw [List.take_length_add_append, outline?_append hc]
  rw [outlines, List.length_append, List.range_add, List.filterMap_append, List.filterMap_map]
  congr 1
  · refine List.filterMap_congr fun i hi => ?_
    have hi := List.mem_range.1 hi
    rw [List.getElem?_append_left hi, List.take_append_of_le_length hi.le]
  · refine List.filterMap_congr fun j _ => ?_
    rw [Function.comp_apply, List.getElem?_append_right (by omega), hout, Nat.add_sub_cancel_left]

/-! ## Commands that only prepare a field -/

/-- Whether a command only prepares a field. -/
def Prepares (c : Command) : Prop := c.code ∈ ["FD", "BC", "BQ"]

instance (c : Command) : Decidable (Prepares c) := inferInstanceAs (Decidable (_ ∈ _))

/-- The layouts place boxes and pictures alike. -/
def SamePlace (s t : Layout) : Prop := s.home = t.home ∧ s.cursor = t.cursor

/-- No directive takes two layouts to different places. -/
theorem SamePlace.next {s t : Layout} (h : SamePlace s t) (d : Directive) :
    SamePlace (s.next d) (t.next d) := by
  obtain ⟨hh, hc⟩ := h
  cases d <;> simp [SamePlace, Layout.next, hh, hc]

theorem SamePlace.placed {s t : Layout} (h : SamePlace s t) {d : Directive}
    (hd : d ≠ .separator) : s.placed d = t.placed d := by
  cases d <;> simp_all [SamePlace, Layout.placed]

theorem ofCommand_ne_separator {c : Command} (h : c.code ≠ "FS") :
    Directive.ofCommand c ≠ .separator := by
  unfold Directive.ofCommand
  split <;> simp_all
  split <;> simp

theorem Prepares.samePlace {c : Command} (h : Prepares c) (s : Layout) :
    SamePlace (s.next (Directive.ofCommand c)) s := by
  simp only [Prepares, List.mem_cons, List.not_mem_nil, or_false] at h
  rcases h with h | h | h <;> simp [Directive.ofCommand, h, SamePlace, Layout.next]

/-- A command that prepares a field places nothing itself. -/
theorem Prepares.placed {c : Command} (h : Prepares c) (s : Layout) :
    s.placed (Directive.ofCommand c) = none := by
  simp only [Prepares, List.mem_cons, List.not_mem_nil, or_false] at h
  rcases h with h | h | h <;> simp [Directive.ofCommand, h, Layout.placed]

/-- Without a separator, commands that only prepare a field change nothing of what is placed. -/
theorem run_filter {s t : Layout} (h : SamePlace s t) {cs : List Command}
    (hcs : ∀ c ∈ cs, c.code ≠ "FS") :
    (s.run (cs.map Directive.ofCommand)).2 =
      (t.run ((cs.filter (¬ Prepares ·)).map Directive.ofCommand)).2 := by
  induction cs generalizing s t with
  | nil => rfl
  | cons c cs ih =>
    have hc : c.code ≠ "FS" := hcs c List.mem_cons_self
    have hcs : ∀ c ∈ cs, c.code ≠ "FS" := fun c hc => hcs c (List.mem_cons_of_mem _ hc)
    by_cases hp : Prepares c
    · have hs : SamePlace (s.next (Directive.ofCommand c)) t :=
        ⟨(hp.samePlace s).1.trans h.1, (hp.samePlace s).2.trans h.2⟩
      rw [List.map_cons, Layout.run_cons, hp.placed, ih hs hcs]
      simp [hp]
    · rw [List.map_cons, Layout.run_cons, h.placed (ofCommand_ne_separator hc),
        ih (h.next _) hcs]
      simp [hp, Layout.run_cons]

/-- Later commands place elements from the layout that the earlier ones leave. -/
theorem elements_append (cs ds : List Command) :
    (Document.ofCommands (cs ++ ds)).elements =
      (Document.ofCommands cs).elements ++
        ((Layout.initial.run (cs.map Directive.ofCommand)).1.run
          (ds.map Directive.ofCommand)).2 := by
  simp only [Document.ofCommands, Document.ofDirectives, List.map_append, Layout.run_append]

/-- What a label places: kinds and contents are told by the stretch before each separator, nothing
announced or given before a separator reaches past it, and what is announced or given after the
last separator is lost. -/
theorem outlines_ofCommands (cs : List Command) :
    (Document.ofCommands cs).elements.map Element.outline = outlines cs ∧
    (∀ c ds, c.code = "FS" →
      (Document.ofCommands (cs ++ [c] ++ ds)).elements.map Element.outline =
        (Document.ofCommands (cs ++ [c])).elements.map Element.outline ++
          (Document.ofCommands ds).elements.map Element.outline) ∧
    (∀ ds, (∀ d ∈ ds, d.code ≠ "FS") →
      (Document.ofCommands (cs ++ ds)).elements =
        (Document.ofCommands (cs ++ ds.filter (¬ Prepares ·))).elements) := by
  refine ⟨outlines_elements cs, fun c ds hc => ?_, fun ds hds => ?_⟩
  · rw [outlines_elements, outlines_elements, outlines_elements, outlines_append hc]
  · rw [elements_append, elements_append, run_filter ⟨rfl, rfl⟩ hds]

/-- A symbol announced after its data still decides the kind; the field after it starts anew. -/
theorem outlines_ofCommands_symbol :
    let cs : List Command := [⟨"BC", "N,40"⟩, ⟨"FD", "LA,x"⟩, ⟨"BQ", "N,2,5"⟩]
    let c : Command := ⟨"FS", ""⟩
    let ds : List Command := [⟨"GB", "3,3"⟩, ⟨"FD", "y"⟩]
    (Document.ofCommands (cs ++ [c] ++ ds)).elements.map Element.outline = [.matrix "x", .box] ∧
      (c.code = "FS" ∧ ∀ d ∈ ds, d.code ≠ "FS") ∧
      (Document.ofCommands (cs ++ ds)).elements =
        (Document.ofCommands (cs ++ ds.filter (¬ Prepares ·))).elements := by
  intro cs c ds
  have hc : c.code = "FS" := rfl
  have hds : ∀ d ∈ ds, d.code ≠ "FS" := by decide
  refine ⟨?_, ⟨hc, hds⟩, (outlines_ofCommands cs).2.2 ds hds⟩
  rw [(outlines_ofCommands cs).2.1 c ds hc]
  decide

/-! ## Positions and sizes -/

/-- Whether an element has the settings that the commands before it have written. -/
def Settled (past : List Command) : Element → Prop
  | .text f =>
    f.origin = cursor past ∧ f.font = "sans-serif" ∧ f.height = fontHeight past ∧
      f.orientation = orientation past
  | .box f => f.origin = cursor past
  | .bars f =>
    f.origin = cursor past ∧ f.moduleWidth = moduleWidth past ∧ f.height = barHeight past
  | .matrix f => f.origin = cursor past ∧ f.dotSize = magnification past ∧ f.side = none
  | .picture f => f.origin = cursor past

theorem settled_field (past : List Command) (content : String) :
    Settled past ((layout past).field content) := by
  simp only [Layout.field, layout]
  cases pending past <;> simp [Settled, Layout.defaultFont]

/-- An element that is placed has the settings that were written last. -/
theorem settled_of_placed {past : List Command} {c : Command} {e : Element}
    (h : (layout past).placed (Directive.ofCommand c) = some e) : Settled past e := by
  revert h
  cases Directive.ofCommand c <;> intro h <;> simp only [Layout.placed, reduceCtorEq] at h
  case box => cases h; rfl
  case picture => cases h; rfl
  case separator =>
    obtain ⟨content, -, rfl⟩ := Option.map_eq_some_iff.1 h
    exact settled_field past content

theorem labelWidth_ofCommands (cs : List Command) :
    (Document.ofCommands cs).labelWidth = labelWidth cs :=
  congrArg Layout.labelWidth (run_eq cs)

/-- The settings of what a label places: each element has those that were written last before its
own command, and the label has the width that was declared last. -/
theorem settings_of_placed (cs : List Command) :
    (Document.ofCommands cs).elements = (List.range cs.length).filterMap (placed? cs) ∧
    (∀ i e, placed? cs i = some e → Settled (cs.take i) e) ∧
    (Document.ofCommands cs).labelWidth = labelWidth cs := by
  refine ⟨elements_ofCommands cs, fun i e h => ?_, labelWidth_ofCommands cs⟩
  obtain ⟨c, hc, -⟩ := Option.bind_eq_some_iff.1 h
  rw [placed?_eq hc] at h
  exact settled_of_placed h

/-- A later home does not move a field. A text is turned by its font, by a barcode before it, and
back by a font that names no orientation, which leaves its height alone. -/
theorem settings_of_placed_turned :
    let cs : List Command := [⟨"LH", "10,20"⟩, ⟨"FO", "5,x"⟩, ⟨"LH", "1,1"⟩, ⟨"A0", "b,30"⟩,
      ⟨"FD", "u"⟩, ⟨"FS", ""⟩, ⟨"BY", "3,,70"⟩, ⟨"BC", "R,-4"⟩, ⟨"FD", "ab"⟩, ⟨"FS", ""⟩,
      ⟨"FD", "v"⟩, ⟨"FS", ""⟩, ⟨"CF", "0,25"⟩, ⟨"AD", "X,0"⟩, ⟨"FD", "w"⟩, ⟨"FS", ""⟩]
    let text (height : Nat) (o : Orientation) (content : String) : Element :=
      .text ⟨⟨15, 20⟩, "sans-serif", height, o, content⟩
    let bars : Element := .bars ⟨⟨15, 20⟩, 70, 3, "ab"⟩
    (placed? cs 5 = some (text 30 .bottomUp "u") ∧
        Settled (cs.take 5) (text 30 .bottomUp "u") ∧ orientation (cs.take 5) = .bottomUp) ∧
      (placed? cs 9 = some bars ∧ Settled (cs.take 9) bars) ∧
      (placed? cs 11 = some (text 30 .rotated "v") ∧
        Settled (cs.take 11) (text 30 .rotated "v") ∧ orientation (cs.take 11) = .rotated) ∧
      (placed? cs 15 = some (text 25 .normal "w") ∧
        Settled (cs.take 15) (text 25 .normal "w") ∧ orientation (cs.take 15) = .normal) := by
  intro cs text bars
  obtain ⟨-, hsettled, -⟩ := settings_of_placed cs
  have hfont : placed? cs 5 = some (text 30 .bottomUp "u") := by decide
  have hbars : placed? cs 9 = some bars := by decide
  have hkept : placed? cs 11 = some (text 30 .rotated "v") := by decide
  have hreset : placed? cs 15 = some (text 25 .normal "w") := by decide
  exact ⟨⟨hfont, hsettled 5 _ hfont, by decide⟩, ⟨hbars, hsettled 9 _ hbars⟩,
    ⟨hkept, hsettled 11 _ hkept, by decide⟩, hreset, hsettled 15 _ hreset, by decide⟩

end History

end LabelRaster

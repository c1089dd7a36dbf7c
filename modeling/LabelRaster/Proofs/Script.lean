import LabelRaster.Label.Layout
import LabelRaster.Proofs.Commands

/-!
# Documents written and read back

A document that a label can write is read back from its script. Each element brings its
own position and settings, so that the only thing an element needs of the commands before
it is that they leave the layout at rest (`AtRest`): counting from the corner of the
label, with no field begun. Its commands place it and no other element, and leave the
layout at rest again (`run_commands`).
-/

namespace LabelRaster

/-! ## Parameters -/

/-- Whether a text holds neither a caret nor a blank. -/
def Command.IsPlain (text : List Char) : Prop := ∀ a ∈ text, a ≠ caret ∧ Text.isBlank a = false

instance (text : List Char) : Decidable (Command.IsPlain text) := List.decidableBAll _ text

namespace Params

/-- Whether a text can stand between commas as it is. -/
def IsField (field : List Char) : Prop := ',' ∉ field ∧ Command.IsPlain field

instance (field : List Char) : Decidable (IsField field) := inferInstanceAs (Decidable (_ ∧ _))

theorem isField_numeral (i : Int) : IsField (Decimal.numeral i) := by
  refine ⟨fun hc => ?_, fun c hc => ?_⟩
  · rcases Decimal.mem_numeral hc with h | h <;> exact absurd h (by decide)
  · rcases Decimal.mem_numeral hc with rfl | hd
    · decide
    · refine ⟨?_, Decimal.not_isBlank_of_isDigit hd⟩
      rintro rfl
      exact absurd hd (by decide)

/-- Parameters that hold no comma are read back field by field. -/
theorem ofText_ofParams (code : String) (fields : List (List Char)) (hne : fields ≠ [])
    (h : ∀ f ∈ fields, IsField f) : ofText (Command.ofParams code fields).arg = ⟨fields⟩ := by
  rw [ofText, Command.ofParams, String.toList_ofList,
    List.splitOn_intercalate ',' (fun f hf => (h f hf).1) hne]

/-- A field that holds a numeral is read as its integer. -/
theorem int?_eq {p : Params} {i : Nat} {n : Int} (h : p.fields[i]? = some (Decimal.numeral n)) :
    p.int? i = some (Dot.clamp n) := by
  have hp : p.get? i = some (Decimal.numeral n) := get?_eq_some_iff.2 ⟨h, Decimal.numeral_ne_nil n⟩
  have hn : Decimal.leadingInt? (Decimal.numeral n ++ []) = some (Dot.clamp n) :=
    Decimal.leadingInt?_numeral n (by simp)
  rw [List.append_nil] at hn
  rw [int?, hp, Option.bind_some, hn]

end Params

/-! ## Commands -/

namespace Command

/-- Whether a code can be written: two characters, neither a caret nor blank. -/
def IsCode (code : String) : Prop := code.toList.length = 2 ∧ IsPlain code.toList

instance (code : String) : Decidable (IsCode code) := inferInstanceAs (Decidable (_ ∧ _))

/-- Whether a text can be the end of a command. -/
def IsContent (content : String) : Prop :=
  caret ∉ content.toList ∧ ∀ a ∈ content.toList.getLast?, Text.isBlank a = false

instance (content : String) : Decidable (IsContent content) :=
  @instDecidableAnd _ _ inferInstance (Option.decidableForallMem _)

theorem IsContent.append {lead content : String} (hc : IsContent content)
    (hl : IsPlain lead.toList) : IsContent (lead ++ content) := by
  simp only [IsContent, String.toList_append, List.mem_append, List.getLast?_append]
  refine ⟨not_or.2 ⟨fun h => (hl _ h).1 rfl, hc.1⟩, fun a ha => ?_⟩
  rcases Option.or_eq_some_iff.1 ha with h | ⟨-, h⟩
  · exact hc.2 a h
  · exact (hl a (List.mem_of_getLast? h)).2

theorem wellFormed {c : Command} (hcode : IsCode c.code) (harg : IsContent c.arg) :
    c.WellFormed where
  code_length := hcode.1
  caret_code h := (hcode.2 _ h).1 rfl
  caret_arg := harg.1
  head_blank a ha := by
    rw [String.toList_append] at ha
    obtain ⟨b, cs, hb⟩ := List.exists_cons_of_length_eq_add_one hcode.1
    rw [hb, List.cons_append, List.head?_cons, Option.mem_some_iff] at ha
    exact (hcode.2 a (by simp [hb, ha])).2
  last_blank := (harg.append hcode.2).2

@[simp] theorem code_ofParams (code : String) (fields : List (List Char)) :
    (ofParams code fields).code = code := rfl

theorem isPlain_intercalate {fields : List (List Char)} (h : ∀ f ∈ fields, Params.IsField f) :
    IsPlain ([','].intercalate fields) := by
  intro a ha
  induction fields with
  | nil => exact absurd ha List.not_mem_nil
  | cons f fs ih =>
    rw [List.forall_mem_cons] at h
    cases fs with
    | nil => exact h.1.2 a (by rwa [List.intercalate_singleton] at ha)
    | cons g gs =>
      rw [List.intercalate_cons_cons, List.append_assoc, List.mem_append, List.mem_append,
        List.mem_singleton] at ha
      rcases ha with ha | rfl | ha
      · exact h.1.2 a ha
      · decide
      · exact ih h.2 ha

theorem wellFormed_ofParams {code : String} {fields : List (List Char)} (hcode : IsCode code)
    (h : ∀ f ∈ fields, Params.IsField f) : (ofParams code fields).WellFormed := by
  refine wellFormed hcode ?_
  rw [IsContent, ofParams, String.toList_ofList]
  have hplain := isPlain_intercalate h
  exact ⟨fun h' => (hplain _ h').1 rfl, fun a ha => (hplain a (List.mem_of_getLast? ha)).2⟩

end Command

/-! ## What can be written -/

namespace Element

/-- Whether the sizes and the content of an element can be written. -/
def Describable : Element → Prop
  | text f =>
    f.font = Layout.defaultFont ∧ Dot.HoldsSize f.height ∧ Command.IsContent f.content
  | box f => Dot.Holds f.width ∧ Dot.Holds f.height ∧ Dot.Holds f.thickness
  | bars f => Dot.HoldsSize f.height ∧ Dot.HoldsSize f.moduleWidth ∧ Command.IsContent f.content
  | matrix f => Dot.HoldsSize f.dotSize ∧ f.side = none ∧ Command.IsContent f.content
  | picture f =>
    (8 ∣ f.width ∧ 0 < f.width ∧ f.width ≤ Dot.greatest) ∧
      (0 < f.height ∧ bytesPerRow f * f.height ≤ Dot.greatest) ∧ f.data = #[]

instance : DecidablePred Describable
  | text _ => inferInstanceAs (Decidable (_ ∧ _))
  | box _ => inferInstanceAs (Decidable (_ ∧ _))
  | bars _ => inferInstanceAs (Decidable (_ ∧ _))
  | matrix _ => inferInstanceAs (Decidable (_ ∧ _))
  | picture _ => inferInstanceAs (Decidable (_ ∧ _))

/-- Whether an element can be written: with a position, and as its kind is described. -/
def Writable (e : Element) : Prop :=
  Dot.Holds e.origin.x ∧ Dot.Holds e.origin.y ∧ e.Describable

instance : DecidablePred Writable := fun _ => inferInstanceAs (Decidable (_ ∧ _))

end Element

/-- Whether a document can be written. -/
def Document.Writable (d : Document) : Prop :=
  (∀ w ∈ d.labelWidth, Dot.HoldsSize w) ∧ ∀ e ∈ d.elements, e.Writable

instance : DecidablePred Document.Writable := fun _ => inferInstanceAs (Decidable (_ ∧ _))

/-! ## Commands read back -/

namespace Element

theorem wellFormed_description {e : Element} (h : e.Describable) :
    ∀ c ∈ e.description, c.WellFormed := by
  have hnum := Params.isField_numeral
  have hletter : Params.IsField ['A'] ∧ Params.IsField ['N'] ∧ Params.IsField ['2'] := by decide
  have hcode : Command.IsCode "FD" := by decide
  have hdata {content : String} (h : Command.IsContent content) :
      Command.WellFormed ⟨"FD", content⟩ := Command.wellFormed hcode h
  cases e with
  | text f =>
    have ho : Params.IsField [f.orientation.letter] := by cases f.orientation <;> decide
    simp only [description, List.forall_mem_cons]
    refine ⟨Command.wellFormed_ofParams (by decide) ?_, hdata h.2.2, List.forall_mem_nil _⟩
    simp [ho, hnum]
  | box f =>
    refine List.forall_mem_singleton.2 (Command.wellFormed_ofParams (by decide) ?_)
    simp [hnum]
  | bars f =>
    simp only [description, List.forall_mem_cons]
    refine ⟨Command.wellFormed_ofParams (by decide) ?_,
      Command.wellFormed_ofParams (by decide) ?_, hdata h.2.2, List.forall_mem_nil _⟩
    · simp [hnum]
    · simp [hletter, hnum]
  | matrix f =>
    simp only [description, List.forall_mem_cons]
    refine ⟨Command.wellFormed_ofParams (by decide) ?_, hdata (h.2.2.append (by decide)),
      List.forall_mem_nil _⟩
    simp [hletter, hnum]
  | picture f =>
    refine List.forall_mem_singleton.2 (Command.wellFormed_ofParams (by decide) ?_)
    simp [hletter, hnum]

/-- The commands of an element are well formed, whatever its content. -/
theorem wellFormed_commands {e : Element} (h : e.Writable) : ∀ c ∈ e.commands, c.WellFormed := by
  have hplace : e.placing.WellFormed := Command.wellFormed_ofParams (by decide)
    (by simp [Params.isField_numeral])
  have hend : Command.WellFormed ⟨"FS", ""⟩ := Command.wellFormed (by decide) (by decide)
  rw [commands, List.cons_append, List.forall_mem_cons, List.forall_mem_append,
    List.forall_mem_singleton]
  exact ⟨hplace, wellFormed_description h.2.2, hend⟩

end Element

theorem Document.wellFormed_commands {d : Document} (h : d.Writable) :
    ∀ c ∈ d.commands, c.WellFormed := by
  rw [commands, List.forall_mem_append]
  refine ⟨fun c hc => ?_, fun c hc => ?_⟩
  · obtain ⟨w, -, rfl⟩ := Option.map_eq_some_iff.1 (Option.mem_toList.1 hc)
    exact Command.wellFormed_ofParams (by decide)
      (List.forall_mem_singleton.2 (Params.isField_numeral w))
  · obtain ⟨e, he, hc⟩ := List.mem_flatMap.1 hc
    exact Element.wellFormed_commands (h.2 e he) c hc

/-! ## Directives read back -/

namespace Params

theorem int?_of_holds {p : Params} {i : Nat} {v : Int} (h : p.fields[i]? = some (Decimal.numeral v))
    (hv : Dot.Holds v) : p.int? i = some v := by
  rw [int?_eq h, Dot.clamp_of_mem hv.1 hv.2]

theorem size?_of_holds {p : Params} {i n : Nat} (h : p.fields[i]? = some (Decimal.numeral n))
    (hn : Dot.HoldsSize n) : Directive.size? (p.int? i) = some n := by
  have hv : Dot.Holds n := ⟨by rw [Dot.least]; omega, hn.2⟩
  simp [int?_of_holds h hv, Directive.size?, hn.1]

theorem firstInt?_cons {p : Params} {i : Nat} {v : Int}
    (h : p.fields[i]? = some (Decimal.numeral v)) (is : List Nat) :
    p.firstInt? (i :: is) = p.int? i := by
  have hp := get?_eq_some_iff.2 ⟨h, Decimal.numeral_ne_nil v⟩
  rw [firstInt?, firstPresent?, List.findSome?_cons, hp, int?, hp]

end Params

namespace Element

/-- What the commands that describe an element ask for. -/
def directives : Element → List Directive
  | text f => [.font f.orientation (some f.height), .data f.content]
  | box f => [.box f.width f.height f.thickness]
  | bars f =>
    [.barDefaults (some f.moduleWidth) none, .bars (some .normal) (some f.height),
      .data f.content]
  | matrix f => [.matrix (some f.dotSize), .data ("LA," ++ f.content)]
  | picture f => [.picture ⟨bytesPerRow f * f.height, bytesPerRow f⟩]

open Params

theorem ofCommand_placing {e : Element} (h : e.Writable) :
    Directive.ofCommand e.placing = .fieldOrigin e.origin := by
  have hp : ofText e.placing.arg = ⟨[Decimal.numeral e.origin.x, Decimal.numeral e.origin.y]⟩ :=
    ofText_ofParams _ _ (by simp) (by simp [isField_numeral])
  change Directive.fieldOrigin (Directive.point (ofText e.placing.arg)) = _
  rw [hp, Directive.point, int?_of_holds rfl h.1, int?_of_holds rfl h.2.1]
  rfl

/-- The commands that describe an element are read as its directives. -/
theorem ofCommand_description {e : Element} (h : e.Describable) :
    e.description.map Directive.ofCommand = e.directives := by
  have hnum := isField_numeral
  have hletter : IsField ['A'] ∧ IsField ['N'] ∧ IsField ['2'] := by decide
  cases e with
  | text f =>
    have ho : IsField [f.orientation.letter] := by cases f.orientation <;> decide
    have hp := ofText_ofParams "A@" [[f.orientation.letter], Decimal.numeral f.height] (by simp)
      (by simp [ho, hnum])
    have hturn : Directive.orientation? ⟨[[f.orientation.letter], Decimal.numeral f.height]⟩ 0 =
      some f.orientation := Orientation.ofLetter?_letter f.orientation
    simp only [description, directives, List.map_cons, List.map_nil, Directive.ofCommand,
      Command.code_ofParams, hp, hturn]
    rw [size?_of_holds (i := 1) rfl h.2.1]
    rfl
  | box f =>
    have hp := ofText_ofParams "GB" [Decimal.numeral f.width, Decimal.numeral f.height,
      Decimal.numeral f.thickness] (by simp) (by simp [hnum])
    simp only [description, directives, List.map_cons, List.map_nil, Directive.ofCommand,
      Command.code_ofParams, hp]
    rw [int?_of_holds rfl h.1, int?_of_holds rfl h.2.1, int?_of_holds rfl h.2.2]
    rfl
  | bars f =>
    have hp := ofText_ofParams "BY" [Decimal.numeral f.moduleWidth] (by simp) (by simp [hnum])
    have hq := ofText_ofParams "BC" [['N'], Decimal.numeral f.height] (by simp)
      (by simp [hletter, hnum])
    have hheight : Directive.size? (firstInt? ⟨[Decimal.numeral f.moduleWidth]⟩ [2, 1]) = none :=
      rfl
    have hturn : Directive.orientation? ⟨[['N'], Decimal.numeral f.height]⟩ 0 = some .normal := rfl
    simp only [description, directives, List.map_cons, List.map_nil, Directive.ofCommand,
      Command.code_ofParams, hp, hq, hheight, hturn]
    rw [size?_of_holds rfl h.2.1, size?_of_holds rfl h.1]
  | matrix f =>
    have hp := ofText_ofParams "BQ" [['N'], ['2'], Decimal.numeral f.dotSize] (by simp)
      (by simp [hletter, hnum])
    simp only [description, directives, List.map_cons, List.map_nil, Directive.ofCommand,
      Command.code_ofParams, hp]
    rw [firstInt?_cons rfl, size?_of_holds rfl h.1]
  | picture f =>
    obtain ⟨⟨hd, hw, hwg⟩, ⟨hh, hg⟩, -⟩ := h
    have hrow : Dot.Holds (bytesPerRow f) := by
      simp only [Dot.Holds, Dot.least, bytesPerRow]; omega
    have htotal : Dot.Holds (bytesPerRow f * f.height) := by
      have : 0 ≤ bytesPerRow f * f.height := Int.mul_nonneg (by rw [bytesPerRow]; omega) (by omega)
      simp only [Dot.Holds, Dot.least]; omega
    have hp := ofText_ofParams "GF" [['A'], Decimal.numeral (bytesPerRow f * f.height),
      Decimal.numeral (bytesPerRow f * f.height), Decimal.numeral (bytesPerRow f)] (by simp)
      (by simp [hletter, hnum])
    simp only [description, directives, List.map_cons, List.map_nil, Directive.ofCommand,
      Command.code_ofParams, hp]
    rw [firstInt?_cons rfl, int?_of_holds rfl htotal, int?_of_holds rfl hrow]
    rfl

theorem ofCommand_commands {e : Element} (h : e.Writable) :
    e.commands.map Directive.ofCommand =
      .fieldOrigin e.origin :: e.directives ++ [.separator] := by
  rw [commands, List.map_append, List.map_cons, ofCommand_placing h, ofCommand_description h.2.2]
  rfl

end Element

/-! ## Elements read back -/

/-- The instruction that is written in front of the content of a matrix symbol is cut off. -/
theorem Payload.payload_lead (content : List Char) :
    payload ('L' :: 'A' :: ',' :: content) = content := rfl

namespace PictureHeader

/-- A picture whose rows are whole bytes has its width told by their number. -/
theorem width_eq {f : PictureField} (hd : 8 ∣ f.width) (hw : 0 < f.width)
    (hg : f.width ≤ Dot.greatest) (total : Int) :
    width ⟨total, Element.bytesPerRow f⟩ = f.width := by
  have hrow : 0 < Element.bytesPerRow f := by rw [Element.bytesPerRow]; omega
  have hwidth : 8 * Element.bytesPerRow f = f.width := Int.mul_ediv_cancel' hd
  have hl : Dot.least ≤ f.width := by rw [Dot.least]; omega
  rw [width, if_pos hrow, hwidth, Dot.clamp_of_mem hl hg]

theorem height_eq {row height : Int} (hrow : 0 < row) (hh : 0 < height) :
    PictureHeader.height ⟨row * height, row⟩ = height := by
  have htotal : 0 < row * height := Int.mul_pos hrow hh
  have hsum : row * height + row - 1 = (row - 1) + row * height := by omega
  rw [PictureHeader.height, if_pos ⟨hrow, htotal⟩]
  dsimp only
  rw [hsum, Int.add_mul_ediv_left _ _ (by omega), Int.ediv_eq_zero_of_lt (by omega) (by omega),
    Int.zero_add]

end PictureHeader

namespace Layout

/-- Whether the layout counts from the corner of the label and has no field begun. -/
structure AtRest (s : Layout) : Prop where
  home : s.home = ⟨0, 0⟩
  font : s.font = defaultFont
  pending : s.pending = .nothing
  data : s.data = none

theorem atRest_initial : initial.AtRest := ⟨rfl, rfl, rfl, rfl⟩

/-- In a layout at rest an origin counts from the corner of the label. -/
theorem AtRest.next_origin {s : Layout} (hs : s.AtRest) {p : Point} (hx : Dot.Holds p.x)
    (hy : Dot.Holds p.y) : s.next (.fieldOrigin p) = { s with cursor := p } := by
  simp [next, hs.home, Dot.add, Dot.clamp_of_mem hx.1 hx.2, Dot.clamp_of_mem hy.1 hy.2]

/-- At its origin, an element is placed by its directives, and no other one is. -/
theorem run_description {s : Layout} (hs : s.AtRest) {e : Element} (he : e.Describable)
    (hc : s.cursor = e.origin) :
    ∃ t : Layout, s.run (e.directives ++ [.separator]) = (t, [e]) ∧ t.AtRest ∧
      t.labelWidth = s.labelWidth := by
  cases e with
  | text f =>
    refine ⟨_, Prod.ext rfl ?_, ⟨hs.home, rfl, rfl, rfl⟩, rfl⟩
    simp only [Element.origin] at hc
    simp [run_cons, Element.directives, next, placed, field, hs.pending, hc, ← he.1]
  | box f =>
    refine ⟨_, Prod.ext rfl ?_, ⟨hs.home, hs.font, rfl, rfl⟩, rfl⟩
    simp only [Element.origin] at hc
    simp [run_cons, Element.directives, next, placed, hs.data, hc]
  | bars f =>
    refine ⟨_, Prod.ext rfl ?_, ⟨hs.home, hs.font, rfl, rfl⟩, rfl⟩
    simp only [Element.origin] at hc
    simp [run_cons, Element.directives, next, placed, field, hc]
  | matrix f =>
    refine ⟨_, Prod.ext rfl ?_, ⟨hs.home, hs.font, rfl, rfl⟩, rfl⟩
    simp only [Element.origin] at hc
    simp [run_cons, Element.directives, next, placed, field, hc, Payload.payload_lead, ← he.2.1]
  | picture f =>
    obtain ⟨⟨hd, hw, hg⟩, ⟨hh, -⟩, hdata⟩ := he
    have hrow : 0 < Element.bytesPerRow f := by rw [Element.bytesPerRow]; omega
    refine ⟨_, Prod.ext rfl ?_, ⟨hs.home, hs.font, rfl, rfl⟩, rfl⟩
    simp only [Element.origin] at hc
    simp [run_cons, Element.directives, next, placed, hs.data, hc, PictureHeader.width_eq hd hw hg,
      PictureHeader.height_eq hrow hh, ← hdata]

/-- From a layout at rest, the commands of an element place that element and leave the layout at
rest. -/
theorem run_commands {s : Layout} (hs : s.AtRest) {e : Element} (he : e.Writable) :
    ∃ t : Layout, s.run (e.commands.map Directive.ofCommand) = (t, [e]) ∧ t.AtRest ∧
      t.labelWidth = s.labelWidth := by
  have hnext : (s.next (.fieldOrigin e.origin)).AtRest := ⟨hs.home, hs.font, hs.pending, hs.data⟩
  obtain ⟨t, ht, hrest, hwidth⟩ := run_description hnext he.2.2
    (by rw [hs.next_origin he.1 he.2.1])
  refine ⟨t, ?_, hrest, hwidth⟩
  rw [Element.ofCommand_commands he, List.cons_append, run_cons, ht]
  rfl

/-- From a layout at rest, the commands of some elements place those elements. -/
theorem run_flatMap {s : Layout} (hs : s.AtRest) {es : List Element}
    (hes : ∀ e ∈ es, e.Writable) :
    ∃ t : Layout, s.run ((es.flatMap Element.commands).map Directive.ofCommand) = (t, es) ∧
      t.labelWidth = s.labelWidth := by
  induction es generalizing s with
  | nil => exact ⟨s, rfl, rfl⟩
  | cons e es ih =>
    rw [List.forall_mem_cons] at hes
    obtain ⟨t, ht, hrest, hwidth⟩ := run_commands hs hes.1
    obtain ⟨u, hu, hwidth'⟩ := ih hrest hes.2
    refine ⟨u, ?_, hwidth'.trans hwidth⟩
    rw [List.flatMap_cons, List.map_append, run_append, ht, hu]
    rfl

end Layout

/-! ## Documents -/

namespace Document

theorem commands_none (es : List Element) :
    commands ⟨es, none⟩ = es.flatMap Element.commands := rfl

theorem commands_some (es : List Element) (w : Nat) :
    commands ⟨es, some w⟩ =
      .ofParams "PW" [Decimal.numeral w] :: es.flatMap Element.commands := rfl

theorem ofCommand_width {w : Nat} (hw : Dot.HoldsSize w) :
    Directive.ofCommand (.ofParams "PW" [Decimal.numeral w]) = .labelWidth (some w) := by
  have hp := Params.ofText_ofParams "PW" [Decimal.numeral w] (by simp)
    (by simp [Params.isField_numeral])
  simp only [Directive.ofCommand, Command.code_ofParams, hp]
  rw [Params.size?_of_holds rfl hw]

/-- A document is told by its commands, with the width that it declares in front. -/
theorem ofCommands_commands {d : Document} (h : d.Writable) : ofCommands d.commands = d := by
  obtain ⟨es, labelWidth⟩ := d
  cases labelWidth with
  | none =>
    obtain ⟨t, ht, hwidth⟩ := Layout.run_flatMap Layout.atRest_initial h.2
    simp only [ofCommands, ofDirectives, commands_none, ht, hwidth]
    rfl
  | some w =>
    have hrest : (Layout.initial.next (.labelWidth (some w))).AtRest := ⟨rfl, rfl, rfl, rfl⟩
    obtain ⟨t, ht, hwidth⟩ := Layout.run_flatMap hrest h.2
    simp only [ofCommands, ofDirectives, commands_some, List.map_cons,
      ofCommand_width (h.1 w rfl), Layout.run_cons, ht, hwidth]
    rfl

/-- Reading undoes writing: the script of a document is read as that document. -/
theorem ofText_script {d : Document} (h : d.Writable) : ofText d.script = d := by
  rw [ofText, script, Command.ofText_flatMap (wellFormed_commands h), ofCommands_commands h]

/-- Data that looks like an instruction, data with commas and no data at all are all kept. -/
theorem ofText_script_mixed :
    let d : Document := ⟨[.matrix ⟨⟨5, -7⟩, 3, none, "D03040C,LA,x"⟩,
      .text ⟨⟨-2147483648, 2147483647⟩, "sans-serif", 31, .inverted, ""⟩,
      .picture ⟨⟨0, 0⟩, 16, 9, #[]⟩, .bars ⟨⟨1, 2⟩, 70, 4, " a,,b"⟩,
      .box ⟨⟨3, 4⟩, -10, 0, -1⟩, .text ⟨⟨8, 8⟩, "sans-serif", 12, .rotated, "LA,"⟩], some 812⟩
    d.Writable ∧ ofText d.script = d := by
  intro d
  have h : d.Writable := by decide
  exact ⟨h, ofText_script h⟩

end Document

end LabelRaster

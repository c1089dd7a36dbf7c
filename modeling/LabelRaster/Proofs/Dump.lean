import Mathlib.Data.Int.CharZero
import Mathlib.Data.List.Forall2
import LabelRaster.Label.Dump
import LabelRaster.Proofs.Printed

/-!
# What a dump tells

The dump of a document tells all of the document but the bytes of its pictures. The kind
of an element has a name of its own and decides which members follow, so that the value
that is printed tells the document (`Document.toJson_eq_iff`); and the text tells the
value, whatever characters the contents are made of (`Document.dump_eq_iff`).
-/

namespace LabelRaster

open Json (Value)

/-! ## Values -/

namespace Json.Value

@[simp] theorem int_inj {i j : Int} : int i = int j ↔ i = j := by
  rw [int, int, number.injEq, Decimal.numeral_inj]

@[simp] theorem ofNat?_inj {m n : Option Nat} : ofNat? m = ofNat? n ↔ m = n := by
  cases m with
  | none => cases n <;> simp [ofNat?, int]
  | some m => cases n <;> simp [ofNat?, int, Decimal.numeral_inj]

theorem wellFormed_int (i : Int) : (int i).WellFormed := by
  refine .number (Decimal.numeral_ne_nil i) fun c hc => ?_
  rcases Decimal.mem_numeral hc with rfl | hdigit
  · rfl
  · rw [isNumeral, hdigit]
    rfl

theorem wellFormed_ofNat? (n : Option Nat) : (ofNat? n).WellFormed := by
  cases n with
  | none => exact .null
  | some n => exact wellFormed_int n

end Json.Value

@[simp] theorem Orientation.name_inj {o o' : Orientation} : o.name = o'.name ↔ o = o' := by
  cases o <;> cases o' <;> simp [name]

/-! ## Elements -/

namespace Element

/-- An element without the bytes of a picture. -/
def withoutData : Element → Element
  | picture f => picture { f with data := #[] }
  | e => e

theorem wellFormed_details (e : Element) : ∀ m ∈ e.details, m.2.WellFormed := by
  cases e <;> simp [details, Value.wellFormed_int, Value.wellFormed_ofNat?, Value.WellFormed.string]

theorem wellFormed_toJson (e : Element) : e.toJson.WellFormed := by
  refine .object fun m hm => ?_
  rcases List.mem_append.1 hm with hm | hm
  · simp only [List.mem_cons, List.not_mem_nil, or_false] at hm
    rcases hm with rfl | rfl | rfl
    · exact .string _
    · exact Value.wellFormed_int _
    · exact Value.wellFormed_int _
  · exact wellFormed_details e m hm

variable {e e' : Element}

/-- The members that all elements share tell the kind and the origin. -/
theorem toJson_eq_iff_details :
    e.toJson = e'.toJson ↔ e.kind = e'.kind ∧ e.origin = e'.origin ∧ e.details = e'.details := by
  have horigin : e.origin = e'.origin ↔ e.origin.x = e'.origin.x ∧ e.origin.y = e'.origin.y :=
    ⟨fun h => h ▸ ⟨rfl, rfl⟩, fun ⟨hx, hy⟩ => congrArg₂ Point.mk hx hy⟩
  simp only [toJson, Value.object.injEq, List.cons_append, List.nil_append, List.cons.injEq,
    Prod.mk.injEq, Value.string.injEq, Value.int_inj, horigin, true_and, and_assoc]

/-- The name of its kind tells which members an element has, and each of them tells a part of it. -/
theorem toJson_eq_iff : e.toJson = e'.toJson ↔ e.withoutData = e'.withoutData := by
  rw [toJson_eq_iff_details]
  cases e with
  | text f =>
    cases e' with
    | text f' =>
      cases f
      cases f'
      simp [kind, origin, details, withoutData]
    | _ => simp [kind, withoutData]
  | box f =>
    cases e' with
    | box f' =>
      cases f
      cases f'
      simp [kind, origin, details, withoutData]
    | _ => simp [kind, withoutData]
  | bars f =>
    cases e' with
    | bars f' =>
      cases f
      cases f'
      simp [kind, origin, details, withoutData]
    | _ => simp [kind, withoutData]
  | matrix f =>
    cases e' with
    | matrix f' =>
      cases f
      cases f'
      simp [kind, origin, details, withoutData]
    | _ => simp [kind, withoutData]
  | picture f =>
    cases e' with
    | picture f' =>
      cases f
      cases f'
      simp [kind, origin, details, withoutData]
    | _ => simp [kind, withoutData]

end Element

/-! ## Documents -/

namespace Document

/-- A document without the bytes of its pictures. -/
def withoutData (d : Document) : Document := { d with elements := d.elements.map .withoutData }

variable {d d' : Document}

/-- Documents whose dumps are one value differ in bytes of pictures only. -/
theorem toJson_eq_iff : d.toJson = d'.toJson ↔ d.withoutData = d'.withoutData := by
  have helements : d.elements.map Element.toJson = d'.elements.map Element.toJson ↔
      d.elements.map Element.withoutData = d'.elements.map Element.withoutData := by
    simp only [← List.forall₂_eq_eq_eq, List.forall₂_map_left_iff, List.forall₂_map_right_iff,
      Element.toJson_eq_iff]
  simp only [toJson, withoutData, Value.object.injEq, List.cons.injEq, Prod.mk.injEq,
    Value.array.injEq, Value.ofNat?_inj, Document.mk.injEq, true_and, and_true, helements]

theorem wellFormed_toJson (d : Document) : d.toJson.WellFormed := by
  refine .object fun m hm => ?_
  simp only [List.mem_cons, List.not_mem_nil, or_false] at hm
  rcases hm with rfl | rfl
  · exact .array (List.forall_mem_map.2 fun e _ => e.wellFormed_toJson)
  · exact Value.wellFormed_ofNat? _

/-- Two documents have the same dump just when they differ in nothing but the bytes of their
pictures. -/
theorem dump_eq_iff (d d' : Document) : d.dump = d'.dump ↔ d.withoutData = d'.withoutData := by
  rw [dump, dump, Value.toText_inj Json.isBlank_pretty d.wellFormed_toJson d'.wellFormed_toJson,
    toJson_eq_iff]

end Document

end LabelRaster

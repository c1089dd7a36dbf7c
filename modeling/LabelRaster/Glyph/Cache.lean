import LabelRaster.Glyph.Source
import LabelRaster.Rows

/-!
# Glyphs that have been read

A glyph is read pixel by pixel once, in each size that it is used in, and kept. That
a character has no glyph is kept as well. Reading keeps what was read faithful to the
glyphs (`IsFaithful.read`), so that nothing shows of it (`fst_read`).
-/

namespace LabelRaster.Glyph

/-- The pixels of a character's glyph row by row, if it has a glyph in this size. -/
def Source.pixels? (s : Source) (c : Char) : Option (Array Bool) :=
  (s.glyph? c).map fun glyph =>
    Array.ofFn fun i : Fin (s.width * s.height) => s.isOn glyph (i % s.width) (i / s.width)

/-- The pixels of a glyph are found where its rows put them. -/
theorem Source.getElem?_pixels {s : Source} {c : Char} {glyph x y : Nat} {pixels : Array Bool}
    (hglyph : s.glyph? c = some glyph) (h : s.pixels? c = some pixels) (hx : x < s.width)
    (hy : y < s.height) : pixels[y * s.width + x]? = some (s.isOn glyph x y) := by
  rw [pixels?, hglyph, Option.map_some] at h
  obtain rfl := Option.some.inj h
  simp only [Array.getElem?_ofFn, Rows.number_lt_iff hx, hy, dif_pos, Rows.number_mod hx,
    Rows.number_div hx]

/-- What has been read: by size and character, the pixels of the glyph, or that there is none. -/
structure Cache where
  entries : List ((Source × Char) × Option (Array Bool))

namespace Cache

/-- Nothing has been read. -/
def empty : Cache := ⟨[]⟩

/-- The pixels of a character's glyph, which are read if they have not been before. -/
def read (cache : Cache) (s : Source) (c : Char) : Option (Array Bool) × Cache :=
  match cache.entries.lookup (s, c) with
  | some pixels => (pixels, cache)
  | none =>
    let pixels := s.pixels? c
    (pixels, ⟨((s, c), pixels) :: cache.entries⟩)

/-- What has been read is what the glyphs look like. -/
def IsFaithful (cache : Cache) : Prop :=
  ∀ s c pixels, cache.entries.lookup (s, c) = some pixels → pixels = s.pixels? c

theorem isFaithful_empty : empty.IsFaithful := nofun

/-- A glyph that was kept is the one that would be read. -/
theorem fst_read {cache : Cache} (h : cache.IsFaithful) (s : Source) (c : Char) :
    (cache.read s c).1 = s.pixels? c := by
  rw [read]
  split
  · rename_i pixels hfound
    exact h s c pixels hfound
  · rfl

theorem IsFaithful.read {cache : Cache} (h : cache.IsFaithful) (s : Source) (c : Char) :
    (cache.read s c).2.IsFaithful := by
  rw [Cache.read]
  split
  · exact h
  · intro s' c' pixels hfound
    rw [List.lookup_cons] at hfound
    by_cases hkey : (s', c') = (s, c)
    · obtain ⟨rfl, rfl⟩ := Prod.mk.inj hkey
      rw [beq_self_eq_true] at hfound
      exact (Option.some.inj hfound).symm
    · rw [beq_false_of_ne hkey] at hfound
      exact h s' c' pixels hfound

end Cache

end LabelRaster.Glyph

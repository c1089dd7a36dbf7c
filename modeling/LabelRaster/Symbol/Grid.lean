/-!
# Matrix symbols

A matrix symbol is a square of dark and light modules. What encodes a content as
one is a `Generator`: a host may bring its own, and a generator may refuse a
content.
-/

namespace LabelRaster.Symbol

/-- A square of modules. -/
structure Grid where
  side : Nat
  /-- The modules row by row; `true` is dark. -/
  modules : Array Bool
  size_eq : modules.size = side * side
deriving DecidableEq, Repr

namespace Grid

/-- The square with the given modules, row by row, if their number is that of its side. -/
def ofModules? (side : Nat) (modules : Array Bool) : Option Grid :=
  if h : modules.size = side * side then some ⟨side, modules, h⟩ else none

/-- Whether the module in `row` and `col` is dark; outside the square all is light. -/
def isDark (g : Grid) (row col : Nat) : Bool :=
  if row < g.side ∧ col < g.side then g.modules.getD (row * g.side + col) false else false

/-- The square with side `side` whose module in `row` and `col` is `f row col`. -/
def tabulate (side : Nat) (f : Nat → Nat → Bool) : Grid where
  side := side
  modules := Array.ofFn fun i : Fin (side * side) => f (i / side) (i % side)
  size_eq := by simp

theorem isDark_eq_false_iff {g : Grid} {row col : Nat} (hrow : row < g.side) (hcol : col < g.side) :
    g.isDark row col = false ↔ g.modules[row * g.side + col]? = some false := by
  have hlt : row * g.side + col < g.modules.size := by
    have := Nat.mul_le_mul_right g.side (Nat.succ_le_of_lt hrow)
    rw [Nat.succ_mul] at this
    rw [g.size_eq]
    omega
  rw [isDark, if_pos ⟨hrow, hcol⟩, Array.getD_eq_getD_getElem?, Array.getElem?_eq_getElem hlt,
    Option.getD_some, Option.some_inj]

end Grid

/-- Why a generator refuses a content. -/
inductive Refusal where
  /-- The content is longer than the largest symbol can hold. -/
  | tooLong
  /-- A reason of the generator's own. -/
  | other (detail : String)
deriving DecidableEq, Repr

/-- The wording of a refusal. -/
def Refusal.message : Refusal → String
  | tooLong => "Symbol generation failed: QR code generation failed: data too long"
  | other detail => "Symbol generation failed: " ++ detail

/-- Encodes a content as a matrix symbol, or refuses it. -/
abbrev Generator := String → Except Refusal Grid

end LabelRaster.Symbol

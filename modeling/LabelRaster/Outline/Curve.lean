/-!
# Curves

An outline is drawn by moving a pen along contours; what it leaves are straight
lines and quadratic curves. A font gives a contour by its points, each on the
curve or off it; between two points off the curve, their middle is on the curve.
A contour that starts off the curve starts at its second point, or in the middle
of its first two if both are off. A contour is closed unless its points break off
before its end.
-/

namespace LabelRaster.Outline

/-- A place in the plane. -/
structure Position where
  x : Float32
  y : Float32

namespace Position

/-- The place at a share of the way to another. -/
def toward (t : Float32) (p q : Position) : Position :=
  ⟨p.x + t * (q.x - p.x), p.y + t * (q.y - p.y)⟩

/-- The place halfway between two. -/
def middle (p q : Position) : Position := toward 0.5 p q

end Position

/-- A point of a contour. -/
structure ContourPoint where
  place : Position
  onCurve : Bool

/-- A move of the pen. -/
inductive Move where
  /-- The start of a contour. -/
  | start (place : Position)
  | line (stop : Position)
  | quadratic (control stop : Position)
  /-- The end of a contour. -/
  | close

namespace Move

/-- The places that a move names. -/
def positions : Move → List Position
  | start p => [p]
  | line q => [q]
  | quadratic c q => [c, q]
  | close => []

/-- The move with all its places moved. -/
def map (f : Position → Position) : Move → Move
  | start p => start (f p)
  | line q => line (f q)
  | quadratic c q => quadratic (f c) (f q)
  | close => close

/-- The move to a place, curved if there is a control place. -/
def reach (control : Option Position) (stop : Position) : Move :=
  match control with
  | some c => quadratic c stop
  | none => line stop

/-- The moves through points of a contour, and then what `finish` makes of the point off the curve
that was passed last; `control` is that point at the start. -/
def through (finish : Option Position → List Move) (control : Option Position) :
    List ContourPoint → List Move
  | [] => finish control
  | ⟨p, true⟩ :: rest => reach control p :: through finish none rest
  | ⟨p, false⟩ :: rest =>
    match control with
    | some c => quadratic c (c.middle p) :: through finish (some p) rest
    | none => through finish (some p) rest

/-- The moves along a closed contour. -/
def ofContour : List ContourPoint → List Move
  | [] => []
  | ⟨p, true⟩ :: rest => start p :: through (finish p) none rest
  | [⟨_, false⟩] => [close]
  | ⟨p, false⟩ :: ⟨q, true⟩ :: rest =>
    start q :: through (finish q) none (rest ++ [⟨p, false⟩])
  | ⟨p, false⟩ :: ⟨q, false⟩ :: rest =>
    start (p.middle q) :: through (finish (p.middle q)) (some q) (rest ++ [⟨p, false⟩])
where
  finish (home : Position) (control : Option Position) : List Move := [reach control home, close]

/-- The moves along a contour that breaks off. -/
def ofBroken : List ContourPoint → List Move
  | [] => []
  | ⟨p, true⟩ :: rest => start p :: through (fun _ => []) none rest
  | [⟨_, false⟩] => []
  | ⟨_, false⟩ :: ⟨q, true⟩ :: rest => start q :: through (fun _ => []) none rest
  | ⟨p, false⟩ :: ⟨q, false⟩ :: rest =>
    start (p.middle q) :: through (fun _ => []) (some q) rest

end Move

/-- What a move of the pen leaves. -/
inductive Curve where
  | line (start stop : Position)
  | quadratic (start control stop : Position)

namespace Curve

/-- The line from `here` back to the start of a contour, if one is open. -/
def back (here : Position) (home : Option Position) : List Curve := home.toList.map (line here)

/-- What moves of the pen leave, when it is at `here` and the contour that is open started at
`home`. A contour that is closed, or still open in the end, leaves a line back to its start; one
that another start breaks off leaves none. -/
def ofMoves (here : Position) (home : Option Position) : List Move → List Curve
  | [] => back here home
  | .start p :: rest => ofMoves p (some p) rest
  | .line q :: rest => line here q :: ofMoves q home rest
  | .quadratic c q :: rest => quadratic here c q :: ofMoves q home rest
  | .close :: rest => back here home ++ ofMoves here none rest

end Curve

end LabelRaster.Outline

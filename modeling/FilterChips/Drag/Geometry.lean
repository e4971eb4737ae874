/-
FilterChips.Drag.Geometry — points, the rectangles of chips, and their grouping into rows.

`groupRows` sorts rectangles into rows by the rounded top edge. The rows come from top to bottom and
each lists its rectangles in the order in which they were given.
-/
import FilterChips.Drag.Coordinate

namespace FilterChips

namespace Drag

/-- A position on the drag surface. -/
structure Point (α : Type) where
  x : α
  y : α
  deriving DecidableEq

/-- The bounding box of a chip. -/
structure ChipRect (α : Type) where
  top : α
  bottom : α
  left : α
  right : α
  deriving DecidableEq

/-- A rectangle together with its place in the list it comes from. -/
structure Member (α : Type) where
  index : Nat
  rect : ChipRect α
  deriving DecidableEq

/-- The rectangles that share a rounded top edge, and the box around them. -/
structure Row (α : Type) where
  top : α
  bottom : α
  left : α
  right : α
  members : List (Member α)
  deriving DecidableEq

/-- The straight distance of two points. -/
def Point.distance (p q : Point Double) : Double :=
  Double.hypot (p.x - q.x) (p.y - q.y)

variable {α : Type} [Coordinate α]

namespace ChipRect

/-- The rectangle with a given corner and size. -/
def ofSize (left top width height : α) : ChipRect α :=
  ⟨top, top + height, left, left + width⟩

/-- The middle between the left and the right edge. -/
def midX (rect : ChipRect α) : α :=
  rect.left + Coordinate.half (rect.right - rect.left)

/-- The whole number that names the row of a rectangle. -/
def rowKey (rect : ChipRect α) : Int :=
  Coordinate.rowKey rect.top

end ChipRect

namespace Row

/-- A row of one rectangle. -/
def single (m : Member α) : Row α :=
  ⟨m.rect.top, m.rect.bottom, m.rect.left, m.rect.right, [m]⟩

/-- The row with one more rectangle at its end; the bottom is that of the last one. -/
def append (row : Row α) (m : Member α) : Row α :=
  { row with
    bottom := m.rect.bottom
    left := min row.left m.rect.left
    right := max row.right m.rect.right
    members := row.members ++ [m] }

/-- The places of the members. -/
def indices (row : Row α) : List Nat :=
  row.members.map Member.index

/-- Whether a height lies within the row, give or take a tolerance. -/
def spans (row : Row α) (tolerance y : α) : Bool :=
  row.top - tolerance ≤ y && y ≤ row.bottom + tolerance

end Row

/-- Rows under their keys, in ascending order, with one more rectangle. -/
def addToRows (m : Member α) : List (Int × Row α) → List (Int × Row α)
  | [] => [(m.rect.rowKey, Row.single m)]
  | (key, row) :: rest =>
    if m.rect.rowKey < key then (m.rect.rowKey, Row.single m) :: (key, row) :: rest
    else if m.rect.rowKey = key then (key, row.append m) :: rest
    else (key, row) :: addToRows m rest

/-- A list of rectangles with their places. -/
def members (rects : List (ChipRect α)) : List (Member α) :=
  rects.zipIdx.map fun (rect, i) => ⟨i, rect⟩

/-- The rows of some rectangles under their keys. -/
def keyedRows (rects : List (ChipRect α)) : List (Int × Row α) :=
  (members rects).foldl (fun rows m => addToRows m rows) []

/-- The rows of some rectangles, from top to bottom. -/
def groupRows (rects : List (ChipRect α)) : List (Row α) :=
  (keyedRows rects).map Prod.snd

end Drag

end FilterChips

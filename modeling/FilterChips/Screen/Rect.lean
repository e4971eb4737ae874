/-
FilterChips.Screen.Rect — rectangles of screen cells.

Columns and rows are numbered from 0 to `Screen.last`; sums that would pass this bound stop at it.
-/
namespace FilterChips

namespace Screen

/-- The largest number of a column or row, and the largest size. -/
def last : Nat := 65535

/-- The sum, held at the largest number. -/
def add (a b : Nat) : Nat :=
  min (a + b) last

end Screen

/-- A rectangle of screen cells: its upper left cell and its size. -/
structure Rect where
  x : Nat
  y : Nat
  width : Nat
  height : Nat
  deriving DecidableEq, Repr

namespace Rect

/-- The rectangle without cells at the origin. -/
def empty : Rect := ⟨0, 0, 0, 0⟩

/-- The rectangle with a given cell and size, cut off at the last column and row. -/
def clamped (x y width height : Nat) : Rect :=
  ⟨x, y, min width (Screen.last - x), min height (Screen.last - y)⟩

/-- The column right of the rectangle. -/
def right (r : Rect) : Nat :=
  Screen.add r.x r.width

/-- The row below the rectangle. -/
def bottom (r : Rect) : Nat :=
  Screen.add r.y r.height

/-- Whether a cell lies in the rectangle. -/
def contains (r : Rect) (column row : Nat) : Bool :=
  r.x ≤ column && column < r.right && r.y ≤ row && row < r.bottom

/-- The common part of two rectangles. -/
def inter (r s : Rect) : Rect :=
  let x := max r.x s.x
  let y := max r.y s.y
  ⟨x, y, min r.right s.right - x, min r.bottom s.bottom - y⟩

/-- Whether the rectangle is its own common part with another one. -/
def isWithin (r s : Rect) : Bool :=
  r.inter s = r

/-- The rectangle one cell in from every side. -/
def inside (r : Rect) : Rect :=
  ⟨min (Screen.add r.x 1) r.right, min (Screen.add r.y 1) r.bottom, r.width - 2, r.height - 2⟩

end Rect

end FilterChips

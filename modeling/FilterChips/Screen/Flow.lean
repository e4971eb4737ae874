/-
FilterChips.Screen.Flow — chips in a row from left to right, with new rows where they do not fit.

Chips are three rows high with one free column between two of them and one free row between two rows.
A chip is never wider than the area, and only the height of the area may be passed.
-/
import FilterChips.Fault
import FilterChips.Screen.Label

namespace FilterChips

namespace Flow

/-- The rows of a chip. -/
def chipHeight : Nat := 3

/-- The free columns between two chips. -/
def gap : Nat := 1

/-- The free rows between two rows of chips. -/
def rowGap : Nat := 1

/-- A sum of sizes, which must not pass the largest size. -/
def sum (a b : Nat) : Except Fault Nat :=
  if a + b ≤ Screen.last then .ok (a + b) else .error .sizeOverflow

/-- The width of a chip in an area: never more than the area's. -/
def widthIn (area : Rect) (label : String) : Nat :=
  min (Label.chipWidth label) (max area.width 1)

/-- The column and row for a chip of a given width when `x`, `y` come next: the start of a new row
unless the chip fits or is the first of its row. -/
def place (area : Rect) (x y width : Nat) : Nat × Nat :=
  if area.x < x ∧ area.right < Screen.add x width then
    (area.x, Screen.add y (chipHeight + rowGap))
  else (x, y)

/-- The cells of chips of given widths when `x`, `y` come next. -/
def cellsFrom (area : Rect) (x y : Nat) : List Nat → Except Fault (List Rect)
  | [] => .ok []
  | width :: widths => do
    let (column, row) := place area x y width
    let step ← sum width gap
    let cells ← cellsFrom area (Screen.add column step) row widths
    .ok (.clamped column row width chipHeight :: cells)

/-- The cells of chips with given labels in an area. -/
def cells (area : Rect) (labels : List String) : Except Fault (List Rect) :=
  cellsFrom area area.x area.y (labels.map (widthIn area))

/-- The number of rows from the top of an area to the lowest cell. -/
def height (area : Rect) (cells : List Rect) : Nat :=
  (cells.map Rect.bottom).foldl max 0 - area.y

/-- The first of some cells that contains a position. -/
def hit? (cells : List Rect) (column row : Nat) : Option Nat :=
  cells.findIdx? fun cell => cell.contains column row

end Flow

end FilterChips

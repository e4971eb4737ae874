/-
FilterChips.Screen.CellGeometry — screen cells on the drag surface: each takes a fixed width and
height there.
-/
import FilterChips.Drag.Geometry
import FilterChips.Screen.Rect

namespace FilterChips

/-- The cells of the chips on the screen, and the size of one screen cell on the drag surface. -/
structure CellGeometry (α : Type) where
  cells : List Rect
  cellWidth : α
  cellHeight : α

namespace CellGeometry

variable {α : Type} [Coordinate α]

/-- The middle of a screen cell. -/
def point (g : CellGeometry α) (column row : Nat) : Drag.Point α :=
  let half := Coordinate.half (Coordinate.ofNat 1)
  ⟨(Coordinate.ofNat column + half) * g.cellWidth, (Coordinate.ofNat row + half) * g.cellHeight⟩

/-- A rectangle of screen cells on the drag surface. -/
def chipRect (g : CellGeometry α) (cell : Rect) : Drag.ChipRect α :=
  .ofSize (Coordinate.ofNat cell.x * g.cellWidth) (Coordinate.ofNat cell.y * g.cellHeight)
    (Coordinate.ofNat cell.width * g.cellWidth) (Coordinate.ofNat cell.height * g.cellHeight)

/-- The cells of the chips on the drag surface. -/
def chipRects (g : CellGeometry α) : List (Drag.ChipRect α) :=
  g.cells.map g.chipRect

end CellGeometry

end FilterChips

/-
FilterChips.View.Heights — the rows that the board and the palette need to show all their chips.
-/
import FilterChips.Pool
import FilterChips.Screen.Flow

namespace FilterChips

/-- The rows of two borders. -/
def borderRows : Nat := 2

/-- The rows that chips take in a bordered box of a given width, without the borders. -/
def rowsWithin (chips : List Chip) (width : Nat) : Except Fault Nat := do
  let area : Rect := ⟨0, 0, width - 2, 0⟩
  let cells ← Flow.cells area (chips.map Chip.label)
  .ok (Flow.height area cells)

/-- The rows of the board with its borders; a board without chips has room for one row of them. -/
def boardHeight (chips : List Chip) (width : Nat) : Except Fault Nat := do
  let rows ← rowsWithin chips width
  Flow.sum (max rows Flow.chipHeight) borderRows

/-- The rows of the palette with its borders. -/
def paletteHeight (pool : IdentifierPool) (query : String) (width : Nat) : Except Fault Nat := do
  let rows ← rowsWithin (pool.offered query) width
  Flow.sum rows borderRows

end FilterChips

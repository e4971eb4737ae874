/-
FilterChips.Screen.Buffer — the cells of a screen, and drawing single cells and whole areas.

What lies outside the screen is not drawn.
-/
import FilterChips.Screen.Rect
import FilterChips.Screen.Style

namespace FilterChips

/-- The cells of a screen, row after row. -/
structure Buffer where
  width : Nat
  height : Nat
  cells : Array Cell

namespace Buffer

/-- An empty screen. -/
def blank (width height : Nat) : Buffer :=
  ⟨width, height, Array.replicate (width * height) .blank⟩

/-- The whole screen. -/
def area (b : Buffer) : Rect :=
  ⟨0, 0, b.width, b.height⟩

/-- Changes one cell. -/
def modify (b : Buffer) (x y : Nat) (f : Cell → Cell) : Buffer :=
  if x < b.width && y < b.height then { b with cells := b.cells.modify (y * b.width + x) f } else b

/-- Changes the cells from `x` on in a row, as many as asked for. -/
def modifyRow (b : Buffer) (x y count : Nat) (f : Cell → Cell) : Buffer :=
  (List.range count).foldl (fun b i => b.modify (x + i) y f) b

/-- Changes the cells from `y` down in a column, as many as asked for. -/
def modifyColumn (b : Buffer) (x y count : Nat) (f : Cell → Cell) : Buffer :=
  (List.range count).foldl (fun b i => b.modify x (y + i) f) b

/-- Changes the appearance of an area. -/
def restyle (b : Buffer) (area : Rect) (s : Style) : Buffer :=
  let area := area.inter b.area
  (List.range area.height).foldl
    (fun b i => b.modifyRow area.x (area.y + i) area.width (·.restyle s)) b

/-- The cells row by row. -/
def rows (b : Buffer) : List (List Cell) :=
  (List.range b.height).map fun y => (b.cells.extract (y * b.width) ((y + 1) * b.width)).toList

end Buffer

end FilterChips

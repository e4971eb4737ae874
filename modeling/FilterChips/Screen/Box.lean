/-
FilterChips.Screen.Box — bordered boxes with titles on the border.

A box is cut off at the edge of the screen before its border is drawn, so that it is always closed.
-/
import FilterChips.Screen.Line

namespace FilterChips

/-- The symbols of a border. -/
structure Border where
  horizontal : String
  vertical : String
  topLeft : String
  topRight : String
  bottomLeft : String
  bottomRight : String
  deriving DecidableEq

namespace Border

/-- Single lines. -/
def plain : Border := ⟨"─", "│", "┌", "┐", "└", "┘"⟩

/-- Single lines with round corners. -/
def rounded : Border := ⟨"─", "│", "╭", "╮", "╰", "╯"⟩

/-- Thick lines. -/
def thick : Border := ⟨"━", "┃", "┏", "┓", "┗", "┛"⟩

end Border

/-- A bordered box. -/
structure Box where
  border : Border
  style : Style
  title : Option Line
  bottomTitle : Option Line

namespace Box

/-- A box without titles. -/
def untitled (border : Border) (style : Style) : Box :=
  ⟨border, style, none, none⟩

/-- Draws the sides and then the corners; in a box of one row or column the last corner stays. -/
def drawBorder (box : Box) (area : Rect) (b : Buffer) : Buffer :=
  let right := area.right - 1
  let bottom := area.bottom - 1
  let side (symbol : String) (cell : Cell) : Cell := cell.draw symbol box.style
  let b := b.modifyColumn area.x area.y area.height (side box.border.vertical)
  let b := b.modifyRow area.x area.y area.width (side box.border.horizontal)
  let b := b.modifyColumn right area.y area.height (side box.border.vertical)
  let b := b.modifyRow area.x bottom area.width (side box.border.horizontal)
  let b := b.modify right bottom (side box.border.bottomRight)
  let b := b.modify right area.y (side box.border.topRight)
  let b := b.modify area.x bottom (side box.border.bottomLeft)
  b.modify area.x area.y (side box.border.topLeft)

/-- Draws a title between the corners of a row. -/
def drawTitle (area : Rect) (y : Nat) (title : Option Line) (b : Buffer) : Buffer :=
  match title with
  | none => b
  | some line => line.draw ⟨area.x + 1, y, min line.width (area.width - 2), 1⟩ b

/-- Draws the box. -/
def draw (box : Box) (area : Rect) (b : Buffer) : Buffer :=
  let area := area.inter b.area
  if area.width = 0 ∨ area.height = 0 then b
  else
    drawTitle area (area.bottom - 1) box.bottomTitle
      (drawTitle area area.y box.title (box.drawBorder area b))

end Box

end FilterChips

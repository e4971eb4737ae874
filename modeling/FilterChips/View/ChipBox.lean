/-
FilterChips.View.ChipBox — one chip on the screen: its label in a bordered box.

Identifiers are cyan and conditions yellow. A lifted chip has a thick border and reversed colours; over
the trash it is red and crossed out.
-/
import FilterChips.Chip
import FilterChips.Screen.Label
import FilterChips.Screen.Paragraph

namespace FilterChips

/-- How a chip is drawn. -/
inductive Look where
  | normal
  /-- Being dragged. -/
  | lifted
  /-- Being dragged over the trash. -/
  | doomed
  deriving DecidableEq, Repr

namespace Look

/-- The style of a chip. -/
def style (look : Look) (chip : Chip) : Style :=
  let base := Style.colored (if chip.isIdentifier then .cyan else .yellow)
  match look with
  | .normal => base
  | .lifted => base.bold.reversed
  | .doomed => (Style.colored .red).bold.crossedOut

/-- The border of a chip. -/
def border : Look → Border
  | .normal => .rounded
  | _ => .thick

end Look

/-- The label of a chip in a box of its style. -/
def chipParagraph (chip : Chip) (width : Nat) (look : Look) : Paragraph :=
  { text := Label.fit chip.label (width - Label.chrome)
    style := look.style chip
    alignment := .center
    box := some (.untitled look.border (look.style chip)) }

/-- Draws a chip in a cell; a cell that is not within `clip` is not drawn. -/
def drawChip (chip : Chip) (cell clip : Rect) (look : Look) (b : Buffer) : Buffer :=
  if cell.isWithin clip then (chipParagraph chip cell.width look).draw cell b else b

end FilterChips

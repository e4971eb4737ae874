/-
FilterChips.View.Board — the expression on the screen.

The board records the cells of the chips it shows, so that a position can be traced to a chip. Chips
that do not fit are not shown, nor is any chip behind them, so that the cell at an index is that of the
chip at the same index.
-/
import FilterChips.Screen.Flow
import FilterChips.View.ChipBox

namespace FilterChips

/-- The cells of the chips shown, and the area within the border. -/
structure BoardLayout where
  cells : List Rect
  area : Rect
  deriving DecidableEq, Repr

/-- Where the dragged chip is shown, and whether the pointer is over the trash. -/
structure Lifted where
  position : Nat
  overTrash : Bool
  deriving DecidableEq, Repr

namespace BoardLayout

/-- Nothing has been shown yet. -/
def empty : BoardLayout := ⟨[], .empty⟩

/-- The layout of chips on a board that takes an area, border included. -/
def ofChips (chips : List Chip) (area : Rect) : Except Fault BoardLayout := do
  let inner := area.inside
  let cells ← Flow.cells inner (chips.map Chip.label)
  .ok ⟨cells.takeWhile fun cell => cell.isWithin inner, inner⟩

/-- The chip at a position. -/
def chipAt? (layout : BoardLayout) (column row : Nat) : Option Nat :=
  Flow.hit? layout.cells column row

/-- The empty box of the board. -/
def box : Box :=
  { border := .plain
    style := .colored .darkGray
    title := some (.ofText " Expression ")
    bottomTitle := none }

/-- What an empty board says. -/
def hint : Paragraph :=
  ⟨"Click a chip in the palette to add it.", .colored .darkGray, .left, none⟩

/-- The look of the chip at an index. -/
def look (lifted : Option Lifted) (index : Nat) : Look :=
  match lifted with
  | some l => if l.position = index then if l.overTrash then .doomed else .lifted else .normal
  | none => .normal

/-- Draws chips on a board that takes an area. -/
def draw (layout : BoardLayout) (chips : List Chip) (lifted : Option Lifted) (area : Rect)
    (b : Buffer) : Buffer :=
  let b := box.draw area b
  if chips.isEmpty then hint.draw layout.area b
  else
    (chips.zip layout.cells).zipIdx.foldl
      (fun b ((chip, cell), i) => drawChip chip cell layout.area (look lifted i) b) b

end BoardLayout

end FilterChips

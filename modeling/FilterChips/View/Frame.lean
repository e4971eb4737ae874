/-
FilterChips.View.Frame — the whole screen: title, board, palette, status line and trash.

A frame is laid out first and then drawn. The board gets the rows it needs, as far as there are any;
the palette gets as many of the rest as it needs, and what remains goes to the board. The layout is
recorded in the view, where the next inputs are looked up.
-/
import FilterChips.App
import FilterChips.Screen.CellGeometry
import FilterChips.View.Board
import FilterChips.View.Heights
import FilterChips.View.Palette
import FilterChips.View.StatusLine
import FilterChips.View.Trash

namespace FilterChips

/-- What the last frame showed, the palette's query, and the size of a screen cell on the drag
surface. -/
structure View where
  board : BoardLayout
  palette : Palette
  trash : Rect
  cellWidth : Double
  cellHeight : Double
  deriving DecidableEq

namespace View

/-- The view before the first frame. -/
def start (cellWidth cellHeight : Double) : View :=
  ⟨.empty, .empty, .empty, cellWidth, cellHeight⟩

/-- The chips of the board on the drag surface. -/
def geometry (view : View) : CellGeometry Double :=
  ⟨view.board.cells, view.cellWidth, view.cellHeight⟩

end View

/-! ## 1. Areas -/

namespace Frame

/-- The columns of the trash. -/
def trashWidth : Nat := 12

/-- The rows of the status line and the trash. -/
def bottomRows : Nat := 3

/-- The rows of the title, the status line and the trash. -/
def fixedRows : Nat := 4

/-- The rows for the board and the palette. -/
def availableRows (height : Nat) : Nat :=
  height - fixedRows

/-- The areas of a frame. -/
structure Areas where
  title : Rect
  board : Rect
  palette : Rect
  status : Rect
  trash : Rect
  deriving DecidableEq, Repr

/-- The areas of a frame of some size in which the palette gets some rows. On a screen of fewer rows
than the fixed ones, the bottom strip takes them all; on one narrower than the trash, the trash takes
all columns. -/
def areas (width height paletteRows : Nat) : Areas :=
  let boardRows := availableRows height - paletteRows
  let top : Nat := if fixedRows ≤ height then 1 else 0
  let bottom := min bottomRows height
  let bottomY := height - bottom
  let trash := min trashWidth width
  { title := ⟨0, 0, width, top⟩
    board := ⟨0, top, width, boardRows⟩
    palette := ⟨0, top + boardRows, width, paletteRows⟩
    status := ⟨0, bottomY + min 1 bottom, width - trash, min 1 (bottom - 1)⟩
    trash := ⟨width - trash, bottomY, trash, bottom⟩ }

/-- The rows that the palette gets. -/
def paletteRows (app : App) (query : String) (width height : Nat) : Except Fault Nat := do
  let board ← boardHeight app.displaySequence width
  let palette ← paletteHeight app.chips.pool query width
  .ok (min palette (availableRows height - min board (availableRows height)))

/-- Where the dragged chip is shown, if a drag is under way. -/
def lifted (app : App) : Option Lifted :=
  app.drag.session.map fun session =>
    ⟨min session.placeholder (app.displaySequence.length - 1), session.overDeleteTarget⟩

/-! ## 2. Layout -/

/-- A frame laid out: its areas and what the view records of it. -/
structure Layout where
  areas : Areas
  board : BoardLayout
  hits : List Hit
  deriving DecidableEq, Repr

/-- Lays out a frame. -/
def layout (app : App) (query : String) (width height : Nat) : Except Fault Layout := do
  let rows ← paletteRows app query width height
  let areas := areas width height rows
  let board ← BoardLayout.ofChips app.displaySequence areas.board
  let hits ← Palette.hitsIn app.chips.pool query areas.palette
  .ok ⟨areas, board, hits⟩

/-- The view after a frame. -/
def Layout.record (layout : Layout) (view : View) : View :=
  { view with
    board := layout.board
    palette := { view.palette with hits := layout.hits }
    trash := layout.areas.trash }

/-! ## 3. Drawing -/

/-- The title: how many chips are placed and how many are left. -/
def titleLine (app : App) : Line :=
  let placed := app.chips.sequence.length
  let left := app.chips.pool.size
  ⟨[⟨"Sieve", Style.plain.bold⟩,
    ⟨s!" | {placed} chips | {left} in palette", .plain⟩,
    ⟨" | Esc quit, Ctrl+L clear, Del remove last", .colored .darkGray⟩]⟩

/-- Draws a frame that has been laid out. -/
def paint (app : App) (view : View) (layout : Layout) (b : Buffer) : Buffer :=
  let lifted := lifted app
  let trash := trashParagraph lifted.isSome (lifted.any (·.overTrash))
  let b := (titleLine app).draw layout.areas.title b
  let b := layout.board.draw app.displaySequence lifted layout.areas.board b
  let b := view.palette.draw layout.areas.palette b
  let b := (statusLine app.chips.verdict app.status).draw layout.areas.status b
  trash.draw layout.areas.trash b

end Frame

namespace View

/-- The view after a frame of some size. -/
def refresh (view : View) (app : App) (width height : Nat) : Except Fault View := do
  let layout ← Frame.layout app view.palette.query width height
  .ok (layout.record view)

/-- Draws a frame of some size: the view that records it and the screen. -/
def drawFrame (view : View) (app : App) (width height : Nat) : Except Fault (View × Buffer) := do
  let layout ← Frame.layout app view.palette.query width height
  let recorded := layout.record view
  .ok (recorded, Frame.paint app recorded layout (.blank width height))

end View

end FilterChips

/-
FilterChips.View.Palette — the chips on offer on the screen, and the query that filters them.

The palette records a cell and a chip for each chip it shows. A chip that does not fit is passed over.
-/
import FilterChips.Input.Event
import FilterChips.Pool
import FilterChips.Screen.Flow
import FilterChips.View.ChipBox

namespace FilterChips

/-- A chip in its cell. -/
structure Hit where
  cell : Rect
  chip : Chip
  deriving DecidableEq, Repr

/-- The query, and the chips shown by the last frame. -/
structure Palette where
  query : String
  hits : List Hit
  deriving DecidableEq, Repr

/-- What the palette makes of an input. -/
inductive PaletteEvent where
  | pick (chip : Chip)
  | queryCleared
  deriving DecidableEq, Repr

namespace Palette

/-- No query, and nothing shown yet. -/
def empty : Palette := ⟨"", []⟩

/-- The chip at a position. -/
def chipAt? (palette : Palette) (column row : Nat) : Option Chip :=
  (palette.hits.find? fun hit => hit.cell.contains column row).map Hit.chip

/-- Answers an input: characters edit the query, escape clears it, and a press picks a chip. -/
def handle (palette : Palette) : InputEvent → Option PaletteEvent × Palette
  | .inputChar c => (none, { palette with query := palette.query.push c })
  | .backspace => (none, { palette with query := String.ofList palette.query.toList.dropLast })
  | .escape =>
    if palette.query = "" then (none, palette) else (some .queryCleared, { palette with query := "" })
  | .mouseDown column row => ((palette.chipAt? column row).map .pick, palette)
  | _ => (none, palette)

/-- The chips on offer that are shown in a palette that takes an area, border included. -/
def hitsIn (pool : IdentifierPool) (query : String) (area : Rect) : Except Fault (List Hit) := do
  let chips := pool.offered query
  let cells ← Flow.cells area.inside (chips.map Chip.label)
  .ok ((chips.zipWith (fun chip cell => ⟨cell, chip⟩) cells).filter
    fun hit : Hit => hit.cell.isWithin area.inside)

/-- The empty box of the palette. -/
def box (query : String) : Box :=
  { border := .plain
    style := .colored .darkGray
    title := some (.ofText " Palette ")
    bottomTitle := some (.ofText (" filter: " ++ query ++ "_ ")) }

/-- Draws the palette in an area. -/
def draw (palette : Palette) (area : Rect) (b : Buffer) : Buffer :=
  palette.hits.foldl (fun b hit => drawChip hit.chip hit.cell area.inside .normal b)
    ((box palette.query).draw area b)

end Palette

end FilterChips

/-
FilterChips.Screen.Paragraph — text in an area, with or without a box around it.

Each line of the text is drawn in a row of its own, as many as there are rows. A line ends before the
first cluster that would pass the width of the area; a cluster wider than the area is left out.
-/
import FilterChips.Screen.Box

namespace FilterChips

-- The zero of a sum is the core library's, also where Mathlib gives another.
attribute [local instance (high)] Zero.ofOfNat0

/-- Where a line begins. -/
inductive Alignment where
  | left
  | center
  deriving DecidableEq

/-- The column where a line of some width begins in an area of some width. -/
def Alignment.offset (a : Alignment) (area line : Nat) : Nat :=
  match a with
  | .left => 0
  | .center => area / 2 - line / 2

/-- Text in one style. -/
structure Paragraph where
  text : String
  style : Style
  alignment : Alignment
  box : Option Box

namespace Paragraph

/-- The lines of a text; an empty text has one line. -/
def lines (text : String) : List String :=
  if text = "" then [""] else textLines text

/-- The clusters that fit into some cells. -/
def fitting (room : Nat) (used : Nat) : List (List Char) → List (List Char)
  | [] => []
  | cluster :: rest =>
    if room < cellCount cluster then fitting room used rest
    else if room < used + cellCount cluster then []
    else cluster :: fitting room (used + cellCount cluster) rest

/-- Draws clusters from a column on, each in its first cell; one that takes no cell is left out. -/
def drawClusters (style : Style) (y : Nat) : (x : Nat) → Buffer → List (List Char) → Buffer
  | _, b, [] => b
  | x, b, cluster :: rest =>
    let count := cellCount cluster
    let b := if count = 0 then b else b.modify x y (·.draw (String.ofList cluster) style)
    drawClusters style y (x + count) b rest

/-- Draws the paragraph. -/
def draw (p : Paragraph) (area : Rect) (b : Buffer) : Buffer :=
  let area := area.inter b.area
  let b := b.restyle area p.style
  let b := (p.box.map fun box => box.draw area b).getD b
  let inner := if p.box.isSome then area.inside else area
  if inner.width = 0 ∨ inner.height = 0 then b
  else
    ((lines p.text).take inner.height).zipIdx.foldl
      (fun b (line, row) =>
        let shown := fitting inner.width 0 (drawnClusters line)
        let used := (shown.map cellCount).sum
        drawClusters p.style (inner.y + row)
          (inner.x + p.alignment.offset inner.width used) b shown)
      b

end Paragraph

end FilterChips

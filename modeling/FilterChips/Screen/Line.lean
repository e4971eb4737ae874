/-
FilterChips.Screen.Line — one line of styled text.

A line is drawn cluster by cluster. Clusters that hold a control character are left out, and the text
ends before the first cluster that would pass the right edge of its area. A cluster that takes no cell
goes into the cell before it, and one that takes several clears the cells it covers. Each span begins
where the width of the one before it ends, whatever cells that one took.
-/
import FilterChips.Screen.Buffer
import FilterChips.Text.Lines
import FilterChips.Text.Width

namespace FilterChips

-- The zero of a sum is the core library's, also where Mathlib gives another.
attribute [local instance (high)] Zero.ofOfNat0

/-- Whether a character is a control character. -/
def isControlChar (c : Char) : Bool :=
  Width.isControl c

/-- The clusters of a text that can be drawn. -/
def drawnClusters (text : String) : List (List Char) :=
  (clusters text.toList).filter fun cluster => !cluster.any isControlChar

/-- The number of cells that a cluster takes: its width, and one cell more for each halfwidth sound
mark. -/
def cellCount (cluster : List Char) : Nat :=
  textWidth cluster + cluster.countP Cluster.isSoundMark

/-- Text in one style. -/
structure Span where
  text : String
  style : Style

namespace Span

/-- The number of columns of the text. -/
def width (span : Span) : Nat :=
  textWidth span.text.toList

/-- Draws clusters of a text that begins at column `start` with the next one at column `x`, as far as
column `stop`; `first` tells the first cluster of the text. -/
def drawClusters (style : Style) (start stop y : Nat) :
    (first : Bool) → (x : Nat) → Buffer → List (List Char) → Buffer
  | _, _, b, [] => b
  | first, x, b, cluster :: rest =>
    let count := cellCount cluster
    let next := x + count
    if stop < next then b
    else
      let symbol := String.ofList cluster
      let b :=
        if first then b.modify x y (·.draw symbol style)
        else if x = start then b.modify x y (·.overlay symbol style)
        else if count = 0 then b.modify (x - 1) y (·.overlay symbol style)
        else b.modify x y (·.draw symbol style)
      let b := b.modifyRow (x + 1) y (count - 1) fun _ => .blank
      drawClusters style start stop y false next b rest

/-- Draws the text from the left edge of an area on. -/
def draw (span : Span) (area : Rect) (b : Buffer) : Buffer :=
  let area := area.inter b.area
  if area.width = 0 ∨ area.height = 0 then b
  else drawClusters span.style area.x area.right area.y true area.x b (drawnClusters span.text)

end Span

/-- A line of text in spans of one style each. -/
structure Line where
  spans : List Span

namespace Line

/-- A line of plain text. A line break in it ends a span. -/
def ofText (text : String) : Line :=
  ⟨(textLines text).map (⟨·, .plain⟩)⟩

/-- The number of columns of the line. -/
def width (line : Line) : Nat :=
  (line.spans.map Span.width).sum

/-- Draws spans side by side, each after the columns of the one before. -/
def drawSpans (area : Rect) (b : Buffer) : List Span → Buffer
  | [] => b
  | span :: rest =>
    if span.width = 0 then drawSpans area b rest
    else if area.width = 0 then b
    else
      let shift := min span.width Screen.last
      let behind : Rect :=
        { area with x := Screen.add area.x shift, width := area.width - shift }
      drawSpans behind (span.draw area b) rest

/-- Draws the line from the left edge of an area on. -/
def draw (line : Line) (area : Rect) (b : Buffer) : Buffer :=
  let area := area.inter b.area
  if area.width = 0 ∨ area.height = 0 then b
  else drawSpans { area with height := 1 } b line.spans

end Line

end FilterChips

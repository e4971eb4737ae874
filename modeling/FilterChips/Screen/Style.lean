/-
FilterChips.Screen.Style — colours, text attributes and the cells of a screen.
-/
namespace FilterChips

/-- The colours in use; `reset` is the terminal's own. -/
inductive Color where
  | reset
  | red
  | green
  | yellow
  | cyan
  | darkGray
  | white
  deriving DecidableEq, Repr

/-- Attributes of text. -/
structure Attributes where
  bold : Bool
  reversed : Bool
  crossedOut : Bool
  deriving DecidableEq, Repr

namespace Attributes

/-- No attribute. -/
def none : Attributes := ⟨false, false, false⟩

/-- The attributes of both. -/
def union (a b : Attributes) : Attributes :=
  ⟨a.bold || b.bold, a.reversed || b.reversed, a.crossedOut || b.crossedOut⟩

end Attributes

/-- A change of appearance: the colours it sets, if any, and the attributes it adds. -/
structure Style where
  foreground : Option Color
  background : Option Color
  attributes : Attributes
  deriving DecidableEq, Repr

namespace Style

/-- Changes nothing. -/
def plain : Style := ⟨none, none, .none⟩

/-- Sets the colour of the text. -/
def colored (c : Color) : Style := ⟨some c, none, .none⟩

/-- The style with bold text. -/
def bold (s : Style) : Style :=
  { s with attributes := { s.attributes with bold := true } }

/-- The style with reversed colours. -/
def reversed (s : Style) : Style :=
  { s with attributes := { s.attributes with reversed := true } }

/-- The style with crossed out text. -/
def crossedOut (s : Style) : Style :=
  { s with attributes := { s.attributes with crossedOut := true } }

/-- The style on a background. -/
def on (s : Style) (c : Color) : Style :=
  { s with background := some c }

end Style

/-- A cell of the screen: what was drawn in it, if anything, and how. -/
structure Cell where
  drawn : Option String
  foreground : Color
  background : Color
  attributes : Attributes
  deriving DecidableEq, Repr

namespace Cell

/-- The cell of an empty screen. -/
def blank : Cell := ⟨none, .reset, .reset, .none⟩

/-- What the cell shows: a blank where nothing was drawn. -/
def symbol (cell : Cell) : String :=
  cell.drawn.getD " "

/-- The cell after a change of appearance. -/
def restyle (cell : Cell) (s : Style) : Cell :=
  { cell with
    foreground := s.foreground.getD cell.foreground
    background := s.background.getD cell.background
    attributes := cell.attributes.union s.attributes }

/-- The cell with another symbol, after a change of appearance. -/
def draw (cell : Cell) (symbol : String) (s : Style) : Cell :=
  { cell with drawn := some symbol }.restyle s

/-- The cell with a further symbol drawn over what was drawn in it, after a change of appearance. -/
def overlay (cell : Cell) (symbol : String) (s : Style) : Cell :=
  { cell with drawn := some (cell.drawn.getD "" ++ symbol) }.restyle s

end Cell

end FilterChips

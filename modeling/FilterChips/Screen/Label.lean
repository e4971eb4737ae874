/-
FilterChips.Screen.Label — the width of a chip and the shortening of its label.

A label that is too wide keeps as many of its characters as fit beside an ellipsis.
-/
import FilterChips.Screen.Rect
import FilterChips.Text.Width

namespace FilterChips

namespace Label

/-- The columns of a chip beside its label: a border and a blank on each side. -/
def chrome : Nat := 4

/-- The sign that stands for what was cut off. -/
def ellipsis : Char := '…'

/-- The width of the chip of a label. -/
def chipWidth (label : String) : Nat :=
  Screen.add (min (textWidth label.toList) Screen.last) chrome

/-- The characters from the front that fit into a number of columns, one column being left over for
the ellipsis; a control takes no column. -/
def fitting (room : Nat) : List Char → List Char
  | [] => []
  | c :: cs => if room < columns c + 1 then [] else c :: fitting (room - columns c) cs

/-- The label, shortened to at most `room` columns; shortened, it ends in an ellipsis. -/
def fit (label : String) (room : Nat) : String :=
  if textWidth label.toList ≤ room then label
  else if room = 0 then ""
  else String.ofList (fitting room label.toList ++ [ellipsis])

end Label

end FilterChips

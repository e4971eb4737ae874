/-
FilterChips.Text.Lines — the lines of a text.

A line ends in a line feed, with or without a carriage return before it, and holds neither. What
stands behind the last line feed is a line too, unless it is empty.
-/
namespace FilterChips

namespace Lines

/-- The lines of a text that goes on after the beginning of a line. -/
def after (line : List Char) : List Char → List (List Char)
  | [] => if line = [] then [] else [line]
  | '\r' :: '\n' :: cs => line :: after [] cs
  | '\n' :: cs => line :: after [] cs
  | c :: cs => after (line ++ [c]) cs

end Lines

/-- The lines of a text. -/
def textLines (text : String) : List String :=
  (Lines.after [] text.toList).map String.ofList

end FilterChips

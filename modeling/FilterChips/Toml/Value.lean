/-
FilterChips.Toml.Value — the values of a TOML document.
-/
import FilterChips.Number.Double

namespace FilterChips

namespace Toml

/-- How a table came about, which decides what may be added to it. -/
inductive Form where
  /-- Between braces: nothing may be added. -/
  | braces
  /-- By a header of its own. -/
  | header
  /-- By the header of a table within it. -/
  | implied
  /-- By a dotted key. -/
  | dotted
  deriving DecidableEq, Repr

/-- A value. Of a date or time nothing but its presence is kept. -/
inductive Value where
  | string (s : String)
  | integer (n : Int)
  | float (x : Double)
  | boolean (b : Bool)
  | date
  | array (items : List Value)
  | table (form : Form) (entries : List (String × Value))
  /-- The tables of one header between double brackets, the last one first. -/
  | tables (entries : List (List (String × Value)))

/-- The entries of a table: keys and values, each key once. -/
abbrev Entries := List (String × Value)

namespace Entries

/-- The value of a key. -/
def get? (entries : Entries) (key : String) : Option Value :=
  entries.lookup key

/-- The entries with the value of a key set. -/
def set (entries : Entries) (key : String) (v : Value) : Entries :=
  match entries with
  | [] => [(key, v)]
  | (k, w) :: rest => if k = key then (k, v) :: rest else (k, w) :: set rest key v

end Entries

end Toml

end FilterChips

/-
FilterChips.Settings.Basic — the settings that a file may give, and their reading from TOML.

Every setting is optional and so is each of the three sections. A section is a table, of which other
keys are passed over, or an array of its settings in their order. A number may be an integer.
-/
import FilterChips.Settings.Stored
import FilterChips.Toml.Document

namespace FilterChips

/-- The settings of a file; those that it does not give are `none`. -/
structure Settings where
  distanceThreshold : Option Double
  rowTolerance : Option Double
  cellWidth : Option Double
  cellHeight : Option Double
  identifiers : Option (List String)
  initial : Option (List String)
  deriving DecidableEq

/-- Why a file gives no settings. -/
inductive SettingsError where
  /-- The file could not be read. -/
  | unreadable (fault : FileFault)
  /-- The text is not TOML, or a setting has a value of a wrong kind. -/
  | malformed
  deriving DecidableEq, Repr

/-- The wording of an error. -/
def SettingsError.message : SettingsError → String
  | .unreadable fault => "config I/O error: " ++ fault.message
  | .malformed => "config parse error: the text does not describe settings"

namespace Settings

/-- No settings at all. -/
def empty : Settings := ⟨none, none, none, none, none, none⟩

/-! ## 1. Values -/

/-- The number of a value; an integer is rounded to the nearest double. -/
def number? : Toml.Value → Option Double
  | .float x => some x
  | .integer n => some (.ofRatio (n < 0) (n.natAbs * Double.one) 1)
  | _ => none

/-- The text of a value. -/
def text? : Toml.Value → Option String
  | .string s => some s
  | _ => none

/-- The texts of an array of nothing but texts. -/
def texts? : Toml.Value → Option (List String)
  | .array items => items.mapM text?
  | _ => none

/-! ## 2. Sections -/

/-- A value of a kind, if there is a value; `none` if it is of another kind. -/
def optional? {α : Type} (kind : Toml.Value → Option α) : Option Toml.Value → Option (Option α)
  | none => some none
  | some v => (kind v).map some

/-- The values of the two settings of a section, if it has the shape of one. A date has no keys, so it
counts as a section that gives nothing. -/
def fields? (first second : String) :
    Option Toml.Value → Option (Option Toml.Value × Option Toml.Value)
  | none => some (none, none)
  | some .date => some (none, none)
  | some (.table _ entries) => some (Toml.Entries.get? entries first, Toml.Entries.get? entries second)
  | some (.array (v :: w :: _)) => some (some v, some w)
  | some _ => none

/-- The two settings of a section, both of one kind. -/
def pair? {α : Type} (kind : Toml.Value → Option α) (entries : Toml.Entries)
    (name first second : String) : Option (Option α × Option α) := do
  let (v, w) ← fields? first second (entries.get? name)
  some (← optional? kind v, ← optional? kind w)

/-- The settings of a document. -/
def ofEntries? (entries : Toml.Entries) : Option Settings := do
  let (distanceThreshold, rowTolerance) ←
    pair? number? entries "drag" "distance_threshold" "row_tolerance"
  let (cellWidth, cellHeight) ← pair? number? entries "display" "cell_width" "cell_height"
  let (identifiers, initial) ← pair? texts? entries "chips" "identifiers" "initial"
  some ⟨distanceThreshold, rowTolerance, cellWidth, cellHeight, identifiers, initial⟩

/-! ## 3. Texts and files -/

/-- The settings of a text. -/
def ofText (text : String) : Except SettingsError Settings :=
  match (Toml.read? text).bind ofEntries? with
  | some settings => .ok settings
  | none => .error .malformed

/-- The settings of a file. -/
def ofStored (stored : Stored) : Except SettingsError Settings :=
  match stored.read with
  | .ok text => ofText text
  | .error fault => .error (.unreadable fault)

end Settings

end FilterChips

/-
FilterChips.Settings.Loading — where settings come from, and the file that is made when there is none.

Settings are read from a file that the user names, or else from the standard place. A file that is
named must be there. When nothing stands at the standard place, a file that lists all settings as
comments is made there, and every setting takes its default.
-/
import FilterChips.Log
import FilterChips.Settings.Basic

namespace FilterChips

namespace Settings

/-- The text of the file that is made: it describes all settings and gives none. -/
def template : String :=
"# Sieve Configuration
# All settings are optional. Defaults are used for anything not specified.
# Override hierarchy: defaults → this file → env vars → CLI flags.

# [drag]
# distance_threshold = 10.0   # Or SIEVE_DRAG_THRESHOLD; travel before the insertion point moves
# row_tolerance = 30.0        # Or SIEVE_ROW_TOLERANCE; slack above/below a row of chips

# [display]
# cell_width = 16.0           # Geometry units per terminal column
# cell_height = 32.0          # Geometry units per terminal row

# [chips]
# identifiers = [\"pizza\", \"sushi\", \"tacos\"]
# initial = [\"pizza\", \"AND\", \"(\", \"sushi\", \"OR\", \"tacos\", \")\"]
"

/-- The standard place of the settings within a home directory. -/
def standardPath (home : String) : String :=
  (if home.endsWith "/" then home else home ++ "/") ++ ".sieve/config.toml"

/-- What comes of an attempt to load settings: the settings or an error, the lines for the log, and
what stands at the path afterwards. -/
structure Loaded where
  result : Except SettingsError Settings
  log : List Log.Line
  stored : Stored

/-- Loads the settings of a file. -/
def loadNamed (path : String) (stored : Stored) : Loaded :=
  match ofStored stored with
  | .ok settings => ⟨.ok settings, [Log.info s!"Loaded config from {path}"], stored⟩
  | .error e => ⟨.error e, [], stored⟩

/-- Makes the file at the standard place, as far as that is possible. -/
def generate (stored : Stored) : Stored × List Log.Line :=
  match stored.create template with
  | .ok made => (made, [])
  | .error (.directory fault) =>
    (stored, [Log.warn s!"Failed to create config directory: {fault.message}"])
  | .error (.file fault) =>
    (stored, [Log.warn s!"Failed to write default config: {fault.message}"])

/-- Loads the settings of the standard place; when nothing stands there, makes the file. -/
def loadStandard (path : String) (stored : Stored) : Loaded :=
  match stored with
  | .absent .. =>
    let (made, log) := generate stored
    ⟨.ok empty, Log.info s!"No config file found, generating default at {path}" :: log, made⟩
  | _ => loadNamed path stored

/-- Loading from a named file leaves the file as it is. -/
theorem stored_loadNamed (path : String) (stored : Stored) :
    (loadNamed path stored).stored = stored := by
  unfold loadNamed
  split <;> rfl

end Settings

end FilterChips

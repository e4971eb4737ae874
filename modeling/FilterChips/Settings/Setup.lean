/-
FilterChips.Settings.Setup — the values in force: of each setting, the one from the command line, or
else from the environment, the file or the defaults.

A variable of the environment that is no number and a cell size that is not positive are passed over
with a warning.
-/
import FilterChips.App
import FilterChips.Number.Shortest
import FilterChips.Settings.Loading
import FilterChips.Text.Quotation

namespace FilterChips

/-- The settings given on the command line. -/
structure Overrides where
  distanceThreshold : Option Double
  rowTolerance : Option Double
  deriving DecidableEq

/-- The texts of the two variables of the environment. -/
structure Environment where
  dragThreshold : Option String
  rowTolerance : Option String
  deriving DecidableEq, Repr

/-- The values in force. -/
structure Setup where
  drag : Drag.Config Double
  cellWidth : Double
  cellHeight : Double
  identifiers : List String
  initial : List String
  deriving DecidableEq

namespace Setup

/-! ## 1. Defaults -/

/-- The width of a screen cell on the drag surface. -/
def standardCellWidth : Double := 16

/-- The height of a screen cell on the drag surface. -/
def standardCellHeight : Double := 32

/-- The identifiers that are there unless others are given. -/
def standardIdentifiers : List String :=
  ["pizza", "chocolateCake", "sushi", "hamburger", "pasta", "iceCream", "tacos", "applePie",
    "chickenNuggets", "frenchFries", "mediterraneanSeaBassWithLemonButterSauce",
    "pacificNorthwestSalmonWithFreshHerbs", "tuscanWhiteBeanSoupWithPancetta",
    "chickenAlfredoPastaWithBroccoli", "newEnglandClamChowderWithBacon",
    "chocolateLavaCakeWithVanillaIceCream", "beefWellingtonWithMushroomDuxelles",
    "southernFriedChickenWithGravy", "spaghettiCarbonaraWithPancettaAndParmesan",
    "chickenTikkaMasalaWithBasmatiRice"]

/-- The expression that is placed at the beginning unless another is given. -/
def standardInitial : List String :=
  ["chocolateCake", "AND", "frenchFries", "OR", "(", "iceCream", "AND",
    "tuscanWhiteBeanSoupWithPancetta", ")"]

/-! ## 2. Choosing a value -/

/-- A value together with the warnings on the way to it. -/
structure Choice (α : Type) where
  value : α
  warnings : List Log.Line

/-- The number that a variable of the environment gives, if it is one. -/
def ofVariable (name : String) : Option String → Choice (Option Double)
  | none => ⟨none, []⟩
  | some raw =>
    match Double.read? (trim raw.toList) with
    | some x => ⟨some x, []⟩
    | none => ⟨none, [Log.warn s!"Ignoring {name}={quotation raw}: not a number"]⟩

/-- The number in force: that of the command line, of the environment, of the file, or the default. A
variable is not looked at when the command line gives the number. -/
def chooseNumber (given : Option Double) (name : String) (raw : Option String)
    (setting : Option Double) (default : Double) : Choice Double :=
  match given with
  | some x => ⟨x, []⟩
  | none =>
    let found := ofVariable name raw
    ⟨(found.value <|> setting).getD default, found.warnings⟩

/-- The cell size in force: that of the file if it is positive, or the default. -/
def chooseSize (setting : Option Double) (default : Double) : Choice Double :=
  match setting with
  | none => ⟨default, []⟩
  | some x =>
    if 0 < x then ⟨x, []⟩
    else ⟨default, [Log.warn s!"Ignoring non-positive cell size {x.toText}"]⟩

/-- The values in force and the warnings. -/
def resolve (settings : Settings) (overrides : Overrides) (env : Environment) : Choice Setup :=
  let threshold := chooseNumber overrides.distanceThreshold "SIEVE_DRAG_THRESHOLD" env.dragThreshold
    settings.distanceThreshold Drag.Config.standard.distanceThreshold
  let tolerance := chooseNumber overrides.rowTolerance "SIEVE_ROW_TOLERANCE" env.rowTolerance
    settings.rowTolerance Drag.Config.standard.rowTolerance
  let width := chooseSize settings.cellWidth standardCellWidth
  let height := chooseSize settings.cellHeight standardCellHeight
  { value :=
      { drag := ⟨threshold.value, tolerance.value⟩
        cellWidth := width.value
        cellHeight := height.value
        identifiers := settings.identifiers.getD standardIdentifiers
        initial := settings.initial.getD standardInitial }
    warnings := threshold.warnings ++ tolerance.warnings ++ width.warnings ++ height.warnings }

/-! ## 3. The application -/

/-- The identifiers as a pool. -/
def pool (setup : Setup) : IdentifierPool :=
  .ofLabels setup.identifiers

/-- The application at the beginning. -/
def app (setup : Setup) : App :=
  .start (.ofInitial setup.pool setup.initial) setup.drag

end Setup

end FilterChips

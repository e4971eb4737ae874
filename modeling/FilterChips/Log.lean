/-
FilterChips.Log — lines of a log and the threshold that lets them through.
-/
namespace FilterChips

namespace Log

/-- How important a line is, the most important first. -/
inductive Level where
  | error
  | warn
  | info
  | debug
  | trace
  deriving DecidableEq, Repr

/-- The rank of a level: the lower, the more important. -/
def Level.rank : Level → Nat
  | .error => 1
  | .warn => 2
  | .info => 3
  | .debug => 4
  | .trace => 5

/-- The least important level that is written; `none` writes nothing at all. -/
abbrev Threshold := Option Level

/-- Whether lines of a level are written. -/
def Threshold.admits (t : Threshold) (level : Level) : Bool :=
  t.any fun least => level.rank ≤ least.rank

/-- The thresholds and their names. -/
def Threshold.names : List (String × Threshold) :=
  [("off", none), ("error", some .error), ("warn", some .warn), ("info", some .info),
    ("debug", some .debug), ("trace", some .trace)]

/-- The threshold with a name, in letters of any case. -/
def Threshold.ofName? (name : String) : Option Threshold :=
  names.lookup (String.ofList (name.toList.map Char.toLower))

/-- A message and how important it is. -/
structure Line where
  level : Level
  message : String
  deriving DecidableEq, Repr

/-- A line that reports what happened. -/
def info (message : String) : Line := ⟨.info, message⟩

/-- A line that reports something unexpected. -/
def warn (message : String) : Line := ⟨.warn, message⟩

/-- The lines that a threshold lets through, in order. -/
def written (t : Threshold) (lines : List Line) : List Line :=
  lines.filter fun line => t.admits line.level

/-- A level lets through every line of a level at least as important. -/
theorem admits_iff (least level : Level) :
    Threshold.admits (some least) level = true ↔ level.rank ≤ least.rank := by
  simp [Threshold.admits]

end Log

end FilterChips

/-
FilterChips.Main — the program: it looks around, hands what it finds to `Launch.outcome`, and writes
what comes of it. It opens no terminal of its own.
-/
import FilterChips.Launch

namespace FilterChips

namespace Main

/-- Why an operation on a file failed. -/
def fileFault : IO.Error → FileFault
  | .permissionDenied .. => .permissionDenied
  | .alreadyExists .. => .alreadyExists
  | .inappropriateType _ code _ => if code = 21 then .isADirectory else .notADirectory
  | .invalidArgument .. => .nameTooLong
  | _ => .notFound

/-- What stands at a path. -/
def look (path : String) : IO Stored := do
  try
    match String.fromUTF8? (← IO.FS.readBinFile path) with
    | some text => return .text text
    | none => return .unreadable .notText
  catch e =>
    match fileFault e with
    | .notFound => return .missing
    | .notADirectory => return .absent .notADirectory none
    | fault => return .unreadable fault

/-- Makes the file of the settings in a home directory; the answer is what kept it from being made. -/
def makeStandardFile (home : String) : IO (Option Obstacle) := do
  try
    IO.FS.createDirAll (home ++ "/.sieve")
  catch e => return some (.directory (fileFault e))
  try
    IO.FS.writeFile (Settings.standardPath home) Settings.template
    return none
  catch e => return some (.file (fileFault e))

/-- What stands at the standard place. When nothing does, the file is made. -/
def lookStandard (home : String) : IO Stored := do
  match ← look (Settings.standardPath home) with
  | .absent fault _ => return .absent fault (← makeStandardFile home)
  | stored => return stored

/-- Whether the log could be begun. -/
def beginLog : IO Bool := do
  try
    IO.FS.writeFile "sieve.log" ""
    return true
  catch _ => return false

/-- The surroundings of a run with some options. -/
def lookAround (options : CommandLine.Options) : IO Surroundings := do
  let logWritable ← beginLog
  let home := (← IO.getEnv "HOME").getD ""
  let (standard, named) ←
    match options.config with
    | some path => do pure (Stored.missing, ← look path)
    | none => do pure (← lookStandard home, Stored.missing)
  return {
    environment := ⟨← IO.getEnv "SIEVE_DRAG_THRESHOLD", ← IO.getEnv "SIEVE_ROW_TOLERANCE"⟩
    home
    standardFile := standard
    namedFile := fun _ => named
    logWritable
    terminal := none
    events := [] }

/-- The surroundings of a run that does not look at them. -/
def nothingAround : Surroundings :=
  ⟨⟨none, none⟩, "", .missing, fun _ => .missing, false, none, []⟩

/-- A line of the log as it is written. -/
def logText (line : Log.Line) : String :=
  let level :=
    match line.level with
    | .error => "ERROR"
    | .warn => "WARN"
    | .info => "INFO"
    | .debug => "DEBUG"
    | .trace => "TRACE"
  s!"[{level}] {line.message}\n"

/-- Runs the program on some arguments; the answer is its exit status. -/
def run (arguments : List String) : IO UInt32 := do
  let surroundings ←
    match CommandLine.read arguments with
    | .ok (.run options) =>
      if options.check.isSome then pure nothingAround else lookAround options
    | _ => pure nothingAround
  let ended := Launch.outcome arguments surroundings
  if surroundings.logWritable then
    IO.FS.writeFile "sieve.log" (String.join (ended.log.map logText))
  IO.print ended.output
  for line in ended.complaints do
    IO.eprintln line
  return ended.exitStatus.toUInt32

end Main

end FilterChips

/-- Runs the program. -/
def main (arguments : List String) : IO UInt32 :=
  FilterChips.Main.run arguments

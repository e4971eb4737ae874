/-
FilterChips.Launch — a run of the program from its arguments to its exit status.

Help, a check of an expression and a mistake in the arguments end the program at once. Otherwise it
loads its settings, starts the log and runs on the terminal; without a terminal it fails.
-/
import FilterChips.CommandLine
import FilterChips.Expression.Token
import FilterChips.Interaction
import FilterChips.Settings.Setup

namespace FilterChips

/-- What the program finds around it. -/
structure Surroundings where
  environment : Environment
  /-- The home directory. -/
  home : String
  /-- What stands at the standard place of the settings. -/
  standardFile : Stored
  /-- What stands at a path. -/
  namedFile : String → Stored
  /-- Whether the log can be written. -/
  logWritable : Bool
  /-- The columns and rows of the terminal, if there is one. -/
  terminal : Option (Nat × Nat)
  /-- What the user does. -/
  events : List TerminalEvent

/-- What comes of a run. -/
structure Outcome where
  exitStatus : Nat
  output : String
  /-- The lines on the error stream. -/
  complaints : List String
  /-- The lines written to the log. -/
  log : List Log.Line
  /-- The number of chips at the end, if the log tells it. -/
  chips : Option Nat
  deriving DecidableEq

namespace Launch

/-- The exit status of a program that failed. -/
def failureStatus : Nat := 101

/-- The verdict on an expression. -/
def check (expression : String) : Outcome :=
  let verdict := Expression.validate (Expression.tokenize expression)
  if verdict.isValid then ⟨0, "valid\n", [], [], none⟩
  else ⟨1, verdict.message ++ "\n", [], [], none⟩

/-- The values in force, the lines of the log up to the start, and the lines on the error stream. -/
structure Startup where
  setup : Setup
  log : List Log.Line
  complaints : List String

/-- Loads the settings. -/
def load (options : CommandLine.Options) (s : Surroundings) : Settings.Loaded :=
  match options.config with
  | some path => Settings.loadNamed path (s.namedFile path)
  | none => Settings.loadStandard (Settings.standardPath s.home) s.standardFile

/-- The line that tells of the start. -/
def startLine (setup : Setup) : Log.Line :=
  let threshold := setup.drag.distanceThreshold.toText
  let tolerance := setup.drag.rowTolerance.toText
  Log.info (s!"Sieve starting up with {setup.identifiers.length} identifiers " ++
    s!"(threshold {threshold}, tolerance {tolerance})")

/-- Loads the settings and puts them in force; an error leaves the defaults. -/
def startup (options : CommandLine.Options) (s : Surroundings) : Startup :=
  let loaded := load options s
  let (settings, problems) : Settings × List String :=
    match loaded.result with
    | .ok settings => (settings, [])
    | .error e => (.empty, [e.message ++ ", using defaults"])
  let choice := Setup.resolve settings ⟨options.dragThreshold, options.rowTolerance⟩ s.environment
  { setup := choice.value
    log := loaded.log ++ problems.map Log.warn ++ choice.warnings ++ [startLine choice.value]
    complaints := problems.map ("sieve: " ++ ·) }

/-- A turn on a screen of some size in which one terminal event comes, or none. -/
def turn (size : Nat × Nat) (event : Option TerminalEvent) : Interaction.Turn :=
  ⟨size, size, event.bind InputEvent.ofTerminal?, []⟩

/-- The interaction on a terminal of some size. The events come one at a time, each when the answer to
the one before is on the screen, and then nothing more comes. -/
def interaction (setup : Setup) (size : Nat × Nat) (events : List TerminalEvent) : Interaction :=
  (Interaction.start setup.app (.start setup.cellWidth setup.cellHeight)).play
    (events.map (fun event => turn size (some event)) ++ [turn size none])

/-- The lines that a log takes: those let through by the threshold, if it can be written at all. -/
def written (options : CommandLine.Options) (s : Surroundings) (lines : List Log.Line) :
    List Log.Line :=
  if s.logWritable then Log.written options.threshold lines else []

/-- A run with some options. -/
def run (options : CommandLine.Options) (s : Surroundings) : Outcome :=
  match options.check with
  | some expression => check expression
  | none =>
    let start := startup options s
    match s.terminal with
    | none => ⟨failureStatus, "", start.complaints, written options s start.log, none⟩
    | some size =>
      let ended := interaction start.setup size s.events
      let log := start.log ++ Log.info "Terminal modes enabled (mouse capture, hidden cursor)" ::
        ended.fullLog
      match ended.status with
      | .failed _ => ⟨failureStatus, "", start.complaints, written options s log, none⟩
      | _ =>
        { exitStatus := 0
          output := ""
          complaints := start.complaints
          log := written options s log
          chips :=
            if s.logWritable && options.threshold.admits .debug then
              some ended.app.chips.sequence.length
            else none }

/-- A run with some arguments. -/
def outcome (arguments : List String) (s : Surroundings) : Outcome :=
  match CommandLine.read arguments with
  | .error e => ⟨2, "", [e.message], [], none⟩
  | .ok .help => ⟨0, CommandLine.help, [], [], none⟩
  | .ok (.run options) => run options s

end Launch

end FilterChips

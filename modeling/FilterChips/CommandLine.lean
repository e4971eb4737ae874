/-
FilterChips.CommandLine — the options of the program.

Each option is given at most once. Its value is attached with an equals sign (to the short name also
without one) or is the next argument, which then must not look like an option itself. There are no
other arguments. The first mistake ends the reading, and so does the wish for help.
-/
import FilterChips.Log
import FilterChips.Number.Decimal

namespace FilterChips

namespace CommandLine

/-! ## 1. Options -/

/-- An option that takes a value. -/
inductive Parameter where
  | config
  | check
  | logLevel
  | dragThreshold
  | rowTolerance
  deriving DecidableEq, Repr

namespace Parameter

/-- All options that take a value, in the order of the help text. -/
def all : List Parameter := [.config, .check, .logLevel, .dragThreshold, .rowTolerance]

/-- The name of an option, without the dashes before it. -/
def name : Parameter → String
  | .config => "config"
  | .check => "check"
  | .logLevel => "log-level"
  | .dragThreshold => "drag-threshold"
  | .rowTolerance => "row-tolerance"

/-- The name of its value in the help text. -/
def valueName : Parameter → String
  | .config => "CONFIG"
  | .check => "EXPR"
  | .logLevel => "LOG_LEVEL"
  | .dragThreshold => "DRAG_THRESHOLD"
  | .rowTolerance => "ROW_TOLERANCE"

/-- What the help text says about it. -/
def summary : Parameter → String
  | .config => "Config file to use instead of ~/.sieve/config.toml"
  | .check => "Validate EXPR, print the verdict and exit"
  | .logLevel => "Log level written to sieve.log [default: debug]"
  | .dragThreshold => "Pointer travel before the insertion point starts moving"
  | .rowTolerance => "Vertical slack around a row of chips"

/-- The option with a name. -/
def ofName? (name : String) : Option Parameter :=
  all.find? fun p => p.name = name

theorem ofName?_name (p : Parameter) : ofName? p.name = some p := by
  cases p <;> decide

end Parameter

/-- What the options say; `none` for one that is not given. -/
structure Options where
  config : Option String
  check : Option String
  logLevel : Option Log.Threshold
  dragThreshold : Option Double
  rowTolerance : Option Double
  deriving DecidableEq

/-- No option at all. -/
def Options.empty : Options := ⟨none, none, none, none, none⟩

/-- The lines that go into the log: unless told otherwise all but the least important. -/
def Options.threshold (o : Options) : Log.Threshold :=
  o.logLevel.getD (some .debug)

/-- What is wrong with the arguments. -/
inductive UsageError where
  | unexpected (argument : String)
  | repeated (option : Parameter)
  | missingValue (option : Parameter)
  | invalidValue (option : Parameter) (value : String)
  deriving DecidableEq, Repr

/-- The wording of a mistake. -/
def UsageError.message : UsageError → String
  | .unexpected argument => s!"error: unexpected argument '{argument}'"
  | .repeated option => s!"error: --{option.name} is given more than once"
  | .missingValue option => s!"error: --{option.name} needs a value"
  | .invalidValue option value => s!"error: invalid value '{value}' for --{option.name}"

/-- Gives an option that is not given yet the value that a text was read as. -/
def fill {α : Type} (option : Parameter) (text : String) (present read : Option α) :
    Except UsageError (Option α) :=
  if present.isSome then .error (.repeated option)
  else
    match read with
    | some x => .ok (some x)
    | none => .error (.invalidValue option text)

/-- The options with one more value. The name of a file is not empty. -/
def Options.set (o : Options) (option : Parameter) (text : String) : Except UsageError Options :=
  match option with
  | .config => do
    let config ← fill option text o.config (if text = "" then none else some text)
    .ok { o with config }
  | .check => do
    let check ← fill option text o.check (some text)
    .ok { o with check }
  | .logLevel => do
    let logLevel ← fill option text o.logLevel (Log.Threshold.ofName? text)
    .ok { o with logLevel }
  | .dragThreshold => do
    let dragThreshold ← fill option text o.dragThreshold (Double.read? text.toList)
    .ok { o with dragThreshold }
  | .rowTolerance => do
    let rowTolerance ← fill option text o.rowTolerance (Double.read? text.toList)
    .ok { o with rowTolerance }

/-! ## 2. Arguments -/

/-- What an argument is by itself. -/
inductive Argument where
  | help
  /-- Two dashes: no options follow. -/
  | endOfOptions
  /-- An option, with its value if that is attached. -/
  | option (option : Parameter) (attached : Option String)
  | other
  deriving DecidableEq, Repr

/-- A long option, after its two dashes. -/
def Argument.ofLong (cs : List Char) : Argument :=
  let name := String.ofList (cs.takeWhile (· ≠ '='))
  let attached : Option String :=
    match cs.dropWhile (· ≠ '=') with
    | _ :: value => some (String.ofList value)
    | [] => none
  if name = "help" then if attached.isNone then .help else .other
  else
    match Parameter.ofName? name with
    | some p => .option p attached
    | none => .other

/-- A short option, after its dash. What follows the letter of help does not matter. -/
def Argument.ofShort (letter : Char) (cs : List Char) : Argument :=
  if letter = 'h' then .help
  else if letter = 'c' then
    .option .config <|
      match cs with
      | [] => none
      | '=' :: value => some (String.ofList value)
      | value => some (String.ofList value)
  else .other

/-- What an argument is by itself. -/
def Argument.ofText (text : String) : Argument :=
  match text.toList with
  | ['-', '-'] => .endOfOptions
  | '-' :: '-' :: cs => ofLong cs
  | '-' :: letter :: cs => ofShort letter cs
  | _ => .other

/-- Whether an argument may be the value of the option before it. A single dash may. -/
def isValue (text : String) : Bool :=
  text = "-" || !text.startsWith "-"

/-- What the program is asked to do. -/
inductive Command where
  | help
  | run (options : Options)
  deriving DecidableEq

/-- Reads the arguments that follow some options. -/
def readFrom (o : Options) : List String → Except UsageError Command
  | [] => .ok (.run o)
  | text :: rest =>
    match Argument.ofText text with
    | .help => .ok .help
    | .endOfOptions =>
      match rest with
      | [] => .ok (.run o)
      | extra :: _ => .error (.unexpected extra)
    | .other => .error (.unexpected text)
    | .option option (some value) => do readFrom (← o.set option value) rest
    | .option option none =>
      match rest with
      | [] => .error (.missingValue option)
      | value :: rest =>
        if isValue value then do readFrom (← o.set option value) rest
        else .error (.missingValue option)

/-- Reads the arguments of the program. -/
def read (arguments : List String) : Except UsageError Command :=
  readFrom .empty arguments

/-! ## 3. Help -/

/-- The two columns of the help text. -/
def helpRows : List (String × String) :=
  Parameter.all.map row ++ [("-h, --help", "Print help")]
where
  /-- The row of an option; a short name, if there is one, stands before the long one. -/
  row (p : Parameter) : String × String :=
    ((if p = .config then "-c, --" else "    --") ++ p.name ++ " <" ++ p.valueName ++ ">", p.summary)

/-- A text with spaces at its end up to some width. -/
def padded (width : Nat) (text : String) : String :=
  text ++ String.ofList (List.replicate (width - text.length) ' ')

/-- The help text. -/
def help : String :=
  let width := (helpRows.map fun row => row.1.length).foldl max 0
  "Build boolean filter expressions from draggable chips\n\nUsage: sieve [OPTIONS]\n\nOptions:\n" ++
    String.join (helpRows.map fun (left, right) => s!"  {padded width left}  {right}\n")

end CommandLine

end FilterChips

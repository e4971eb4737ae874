/-
FilterChips.Interaction — the application on a screen: inputs become actions, actions change the
state, and the log tells of them, until the user quits.

A loop draws frames and waits for inputs. One turn of it draws a frame if there is something new to
show; if a validation has been asked for, it is carried out after that frame and another frame shows
the verdict. Then the loop waits for an input, and takes with it all that have come by then, without a
frame between them.
-/
import FilterChips.Input.Response
import FilterChips.Journal

namespace FilterChips

/-- How an interaction stands. -/
inductive Interaction.Status where
  | running
  | finished
  | failed (fault : Fault)
  deriving DecidableEq, Repr

/-- The state of the application and its view, the lines logged so far, and what the loop has yet to
do. -/
structure Interaction where
  app : App
  view : View
  log : List Log.Line
  status : Interaction.Status
  /-- Whether a frame is to be drawn. -/
  redraw : Bool
  /-- Whether an action has asked for a validation. -/
  validationDue : Bool

/-- What one turn of the loop meets: a screen and inputs. -/
structure Interaction.Turn where
  /-- The columns and rows of the screen. -/
  size : Nat × Nat
  /-- The same after a validation. -/
  validatedSize : Nat × Nat
  /-- What the loop waited for; nothing if no event came in time, or one without a meaning. -/
  first : Option InputEvent
  /-- The inputs taken with it: those waiting, up to an event without a meaning. -/
  rest : List InputEvent

namespace Interaction

/-- An interaction before its first frame. -/
def start (app : App) (view : View) : Interaction :=
  ⟨app, view, [], .running, true, false⟩

/-- Draws a frame, if one is to be drawn. -/
def draw (s : Interaction) (size : Nat × Nat) : Interaction :=
  if s.status = .running ∧ s.redraw then
    match s.view.refresh s.app size.1 size.2 with
    | .ok view => { s with view, redraw := false }
    | .error fault => { s with status := .failed fault }
  else s

/-- Carries out an action, unless the end has come. -/
def perform (s : Interaction) (action : Action) : Interaction :=
  if s.status = .running then
    match s.app.update action with
    | .error fault => { s with status := .failed fault }
    | .ok (app, effect) =>
      { s with
        app
        log := s.log ++ s.app.journal action
        status := if effect = .quit then .finished else .running
        validationDue := s.validationDue || effect = .scheduleValidation }
  else s

/-- Carries out the validation that was asked for and draws a frame with its verdict. -/
def settle (s : Interaction) (size : Nat × Nat) : Interaction :=
  if s.status = .running ∧ s.validationDue then
    let validated := { s with validationDue := false }.perform .revalidate
    { validated with redraw := true }.draw size
  else s

/-- Takes an input, unless the end has come. -/
def receive (s : Interaction) (event : InputEvent) : Interaction :=
  if s.status = .running then
    let (actions, view) := s.view.actionsFor s.app event
    actions.foldl perform { s with view }
  else s

/-- Takes inputs in order, without a frame between them. -/
def receiveAll (s : Interaction) (events : List InputEvent) : Interaction :=
  events.foldl receive s

/-- Takes what came of a wait. Only the input waited for asks for a frame: after a wait without one,
those taken with it are not shown before the next. -/
def take (s : Interaction) (first : Option InputEvent) (rest : List InputEvent) : Interaction :=
  { s with redraw := s.redraw || first.isSome }.receiveAll (first.toList ++ rest)

/-- A turn up to where it waits for an input. -/
def waiting (s : Interaction) (t : Turn) : Interaction :=
  (s.draw t.size).settle t.validatedSize

/-- One turn of the loop. -/
def turn (s : Interaction) (t : Turn) : Interaction :=
  (s.waiting t).take t.first t.rest

/-- Some turns of the loop. -/
def play (s : Interaction) (turns : List Turn) : Interaction :=
  turns.foldl turn s

/-- The log; when the user has quit, it says so at the end. -/
def fullLog (s : Interaction) : List Log.Line :=
  if s.status = .finished then s.log ++ [Log.info "Quit requested"] else s.log

end Interaction

end FilterChips

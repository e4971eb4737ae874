/-
FilterChips.Input.Event — what the user does, and its reading from terminal events.
-/
namespace FilterChips

/-- An input that the application answers to. -/
inductive InputEvent where
  | forceQuit
  | escape
  | clearAll
  | trashLast
  | inputChar (c : Char)
  | backspace
  | mouseDown (column row : Nat)
  | mouseDrag (column row : Nat)
  | mouseUp (column row : Nat)
  | resize
  deriving DecidableEq, Repr

/-- A key of the keyboard. -/
inductive Key where
  | char (c : Char)
  | backspace
  | delete
  | escape
  /-- Any other key. -/
  | other
  deriving DecidableEq, Repr

/-- What happened to a key. -/
inductive KeyMotion where
  | pressed
  | held
  | released
  deriving DecidableEq, Repr

/-- A key held down together with another one. -/
inductive Modifier where
  | shift
  | control
  | alt
  | superKey
  | hyperKey
  | metaKey
  deriving DecidableEq, Repr

/-- A button of the mouse. -/
inductive MouseButton where
  | left
  | right
  | middle
  deriving DecidableEq, Repr

/-- What happened to the mouse. -/
inductive MouseMotion where
  | down (button : MouseButton)
  | up (button : MouseButton)
  | drag (button : MouseButton)
  /-- A move without a button, or a turn of the wheel. -/
  | other
  deriving DecidableEq, Repr

/-- An event as the terminal reports it. -/
inductive TerminalEvent where
  | key (key : Key) (motion : KeyMotion) (modifiers : List Modifier)
  | mouse (motion : MouseMotion) (column row : Nat)
  | resize
  /-- A change of focus, or text from the clipboard. -/
  | other
  deriving DecidableEq, Repr

namespace InputEvent

/-- Whether the control key and no other is held. -/
def isControlOnly (modifiers : List Modifier) : Bool :=
  modifiers ≠ [] && modifiers.all (· = .control)

/-- The meaning of a key that was pressed. -/
def ofKey? (key : Key) (modifiers : List Modifier) : Option InputEvent :=
  match key with
  | .char c =>
    if isControlOnly modifiers && c = 'c' then some .forceQuit
    else if isControlOnly modifiers && c = 'l' then some .clearAll
    else some (.inputChar c)
  | .backspace => some .backspace
  | .delete => some .trashLast
  | .escape => some .escape
  | .other => none

/-- The meaning of a terminal event; releases, other buttons and other keys mean nothing. -/
def ofTerminal? : TerminalEvent → Option InputEvent
  | .key key .pressed modifiers => ofKey? key modifiers
  | .key .. => none
  | .mouse (.down .left) column row => some (.mouseDown column row)
  | .mouse (.drag .left) column row => some (.mouseDrag column row)
  | .mouse (.up .left) column row => some (.mouseUp column row)
  | .mouse .. => none
  | .resize => some .resize
  | .other => none

end InputEvent

end FilterChips

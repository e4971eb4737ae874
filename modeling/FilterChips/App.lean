/-
FilterChips.App — the state of the application and the actions that change it.

`App.update` answers an action with the next state and an effect. No action validates except
`revalidate`: an action that changes something answers with the effect `scheduleValidation`, upon
which the caller dispatches one `revalidate` after the next frame.
-/
import FilterChips.Collection
import FilterChips.Drag.Engine

namespace FilterChips

/-- Everything that can happen. -/
inductive Action where
  /-- Append a chip from the palette. -/
  | addChip (chip : Chip)
  /-- Delete the chip at an index without dragging it. -/
  | trashChip (index : Nat)
  | clearAll
  | beginDrag (index : Nat) (pointer : Drag.Point Double) (geometry : List (Drag.ChipRect Double))
  | pointerMoved (pointer : Drag.Point Double)
  /-- The pointer entered or left the trash. -/
  | deleteTargetHover (onTarget : Bool)
  | endDrag (overDeleteTarget : Bool)
  | cancelDrag
  | revalidate
  | quit
  deriving DecidableEq

/-- What the caller of `App.update` has to do next. -/
inductive Effect where
  | none
  | scheduleValidation
  | quit
  deriving DecidableEq, Repr

/-- The chips, the drag and the message in the status line. -/
structure App where
  chips : Collection
  drag : Drag.Engine Double
  status : String
  deriving DecidableEq

namespace App

/-- The application before anything happened. -/
def start (chips : Collection) (config : Drag.Config Double) : App :=
  ⟨chips, .idle config, "Drag chips to reorder, drop on the trash to delete."⟩

/-- The sequence as it is shown: with the dragged chip where it would be dropped. -/
def displaySequence (app : App) : List Chip :=
  app.drag.preview app.chips.sequence

/-- Whether an action would shift the sequence under the drag that is under way. -/
def isBlocked (app : App) : Action → Bool
  | .trashChip _ => app.drag.isDragging
  | .clearAll => app.drag.isDragging
  | _ => false

/-- Ends a drag by dropping the chip; a chip dropped on the trash is named in the status line. -/
def drop (app : App) (overDeleteTarget : Bool) : App :=
  let (commit, drag) := app.drag.release overDeleteTarget
  let removed : Option Chip :=
    match commit with
    | .remove index => app.chips.sequence[index]?
    | _ => none
  { chips := app.chips.apply commit
    drag
    status := (removed.map fun chip => "Removed " ++ chip.label).getD app.status }

/-- The next state and the effect of an action. -/
def update (app : App) (action : Action) : Except Fault (App × Effect) :=
  if app.isBlocked action then .ok (app, .none)
  else
    match action with
    | .addChip chip =>
      match app.chips.add chip with
      | (true, chips) =>
        .ok ({ app with chips, status := "Added " ++ chip.label }, .scheduleValidation)
      | (false, _) => .ok (app, .none)
    | .trashChip index =>
      match app.chips.trash index with
      | (some chip, chips) =>
        .ok ({ app with chips, status := "Removed " ++ chip.label }, .scheduleValidation)
      | (none, _) => .ok (app, .none)
    | .clearAll =>
      .ok ({ app with chips := app.chips.clear, status := "Cleared all chips" }, .scheduleValidation)
    | .beginDrag index pointer geometry =>
      if app.drag.isDragging || app.chips.sequence.length ≤ index then .ok (app, .none)
      else do
        let drag ← app.drag.begin index pointer geometry
        .ok ({ app with drag }, .none)
    | .pointerMoved pointer => .ok ({ app with drag := (app.drag.dragTo pointer).2 }, .none)
    | .deleteTargetHover onTarget => .ok ({ app with drag := app.drag.hover onTarget }, .none)
    | .endDrag onTarget =>
      if app.drag.isDragging then .ok (app.drop onTarget, .scheduleValidation) else .ok (app, .none)
    | .cancelDrag =>
      if app.drag.isDragging then
        let (commit, drag) := app.drag.cancel
        .ok ({ chips := app.chips.apply commit, drag, status := "Drag cancelled" },
          .scheduleValidation)
      else .ok (app, .none)
    | .revalidate => .ok ({ app with chips := app.chips.revalidate.2 }, .none)
    | .quit => .ok (app, .quit)

end App

end FilterChips

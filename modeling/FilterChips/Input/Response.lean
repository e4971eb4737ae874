/-
FilterChips.Input.Response — the actions that an input causes.

Positions are looked up in the layout of the last frame.
-/
import FilterChips.View.Frame

namespace FilterChips

namespace View

/-- What a press of the mouse causes: it begins a drag on a chip of the board, or picks a chip of the
palette; during a drag it causes nothing. -/
def pressActions (view : View) (app : App) (column row : Nat) : List Action :=
  if app.drag.isDragging then []
  else
    match view.board.chipAt? column row with
    | some index =>
      [.beginDrag index (view.geometry.point column row) view.geometry.chipRects]
    | none => ((view.palette.chipAt? column row).map Action.addChip).toList

/-- What a move of the mouse with the button down causes. The hover is only reported when it
changes. -/
def moveActions (view : View) (app : App) (column row : Nat) : List Action :=
  match app.drag.session with
  | none => []
  | some session =>
    let onTarget := view.trash.contains column row
    (if onTarget = session.overDeleteTarget then [] else [.deleteTargetHover onTarget]) ++
      [.pointerMoved (view.geometry.point column row)]

/-- The actions that an input causes, and the view with the query edited. -/
def actionsFor (view : View) (app : App) (event : InputEvent) : List Action × View :=
  match event with
  | .forceQuit => ([.quit], view)
  | .clearAll => ([.clearAll], view)
  | .trashLast =>
    (if app.chips.sequence.isEmpty then [] else [.trashChip (app.chips.sequence.length - 1)], view)
  | .escape =>
    if app.drag.isDragging then ([.cancelDrag], view)
    else
      match view.palette.handle .escape with
      | (some _, palette) => ([], { view with palette })
      | (none, palette) => ([.quit], { view with palette })
  | .inputChar c => ([], { view with palette := (view.palette.handle (.inputChar c)).2 })
  | .backspace => ([], { view with palette := (view.palette.handle .backspace).2 })
  | .mouseDown column row => (view.pressActions app column row, view)
  | .mouseDrag column row => (view.moveActions app column row, view)
  | .mouseUp column row =>
    (if app.drag.isDragging then [.endDrag (view.trash.contains column row)] else [], view)
  | .resize => ([], view)

/-- An input changes nothing of the view but the query. -/
theorem exists_query_actionsFor (view : View) (app : App) (event : InputEvent) :
    ∃ query, (view.actionsFor app event).2 =
      { view with palette := { view.palette with query } } := by
  cases event with
  | inputChar c => exact ⟨view.palette.query.push c, rfl⟩
  | backspace => exact ⟨String.ofList view.palette.query.toList.dropLast, rfl⟩
  | escape =>
    unfold actionsFor
    by_cases dragging : app.drag.isDragging = true
    · exact ⟨view.palette.query, by rw [if_pos dragging]⟩
    · rw [if_neg dragging]
      unfold Palette.handle
      by_cases blank : view.palette.query = ""
      · exact ⟨view.palette.query, by rw [if_pos blank]⟩
      · exact ⟨"", by rw [if_neg blank]⟩
  | _ => exact ⟨view.palette.query, rfl⟩

end View

end FilterChips

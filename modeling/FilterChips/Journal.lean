/-
FilterChips.Journal — what the log says about an action.

The lines are told from the state before the action: `App.journal` goes along with `App.update` and
says what it does and why it does nothing.
-/
import FilterChips.App
import FilterChips.Log

namespace FilterChips

/-- The written form of an action that removes chips. -/
def Action.describe? : Action → Option String
  | .trashChip index => some s!"TrashChip({index})"
  | .clearAll => some "ClearAll"
  | _ => none

namespace Collection

/-- The line about the removal of the chip at an index, if there is one. -/
def journalRemoval (c : Collection) (index : Nat) : List Log.Line :=
  (c.sequence[index]?.map fun chip => Log.info s!"Trashed chip {index} ({chip.label})").toList

/-- The lines about a finished drag. -/
def journalCommit (c : Collection) (commit : Drag.Commit) : List Log.Line :=
  match commit with
  | .remove index => c.journalRemoval index
  | _ => []

end Collection

namespace App

/-- The lines about an action that is refused during a drag. -/
def journalBlocked (action : Action) : List Log.Line :=
  (action.describe?.map fun text => Log.warn s!"{text} during an active drag, ignoring").toList

/-- The lines about the start of a drag. -/
def journalBegin (app : App) (index : Nat) : List Log.Line :=
  if app.drag.isDragging then [Log.warn s!"BeginDrag({index}) while a drag is active, ignoring"]
  else if app.chips.sequence.length ≤ index then [Log.warn s!"BeginDrag on missing chip {index}"]
  else [Log.info s!"Drag started on chip {index}"]

/-- The lines about the end of a drag. -/
def journalEnd (app : App) (overDeleteTarget : Bool) : List Log.Line :=
  if app.drag.isDragging then
    let commit := (app.drag.release overDeleteTarget).1
    Log.info s!"Drag ended: {commit.describe}" :: app.chips.journalCommit commit
  else []

/-- The lines about a drag that is given up. -/
def journalCancel (app : App) : List Log.Line :=
  (app.drag.session.map fun session => Log.info s!"Drag on chip {session.index} cancelled").toList

/-- The lines about an action. -/
def journal (app : App) (action : Action) : List Log.Line :=
  if app.isBlocked action then journalBlocked action
  else
    match action with
    | .trashChip index => app.chips.journalRemoval index
    | .clearAll => [Log.info s!"Cleared all chips ({app.chips.clear.pool.size} in pool)"]
    | .beginDrag index _ _ => app.journalBegin index
    | .endDrag onTarget => app.journalEnd onTarget
    | .cancelDrag => app.journalCancel
    | _ => []

/-- A removal is refused with exactly one warning. -/
theorem journal_of_isBlocked {app : App} {action : Action} (h : app.isBlocked action = true) :
    ∃ line, app.journal action = [line] ∧ line.level = .warn := by
  unfold journal
  rw [if_pos h]
  cases action <;> simp [isBlocked] at h <;>
    exact ⟨_, rfl, rfl⟩

end App

end FilterChips

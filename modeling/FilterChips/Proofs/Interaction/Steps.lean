/-
FilterChips.Proofs.Interaction.Steps — what a frame, an input and a
validation do to an interaction.

An input causes one action or a few reports of the pointer, and never a
validation (`View.actionsFor_cases`). So an interaction answers it by a
run of all its actions (`receive_of_running`): nothing comes after an
action that quits.

A frame that is due is drawn or fails, and a validation that is due is
carried out and followed by a frame. `draw_cases` and `settle_cases` say
this with everything that is kept, and nothing else unfolds `draw` and
`settle`.
-/
import FilterChips.Interaction
import FilterChips.Proofs.App.Steps
import FilterChips.Proofs.View.Places

namespace FilterChips

/-! ## §1 Actions and inputs -/

namespace App

/-- Only `quit` quits. -/
theorem Step.effect_eq_quit_iff {app next : App} {action : Action} {effect : Effect}
    (step : Step app action next effect) : effect = .quit ↔ action = .quit := by
  cases step with
  | blocked blocked =>
    simp only [reduceCtorEq, false_iff]
    rintro rfl
    cases blocked
  | _ => simp

end App

namespace View

/-- An input causes one action at most, or reports of the pointer; and
never a validation. -/
theorem actionsFor_cases (view : View) (app : App) (event : InputEvent) :
    ((view.actionsFor app event).1.length ≤ 1 ∧ .revalidate ∉ (view.actionsFor app event).1) ∨
      ∀ action ∈ (view.actionsFor app event).1,
        (∃ onTarget, action = .deleteTargetHover onTarget) ∨
          ∃ pointer, action = .pointerMoved pointer := by
  cases event with
  | mouseDrag column row =>
    refine .inr fun action h => ?_
    simp only [actionsFor, moveActions] at h
    split at h
    · cases h
    · rcases List.mem_append.mp h with hover | moved
      · split at hover
        · cases hover
        · exact .inl ⟨_, List.mem_singleton.mp hover⟩
      · exact .inr ⟨_, List.mem_singleton.mp moved⟩
  | mouseDown column row =>
    refine .inl ?_
    simp only [actionsFor, pressActions]
    split
    · simp
    · split
      · simp
      · cases view.palette.chipAt? column row <;> simp
  | escape =>
    refine .inl ?_
    simp only [actionsFor]
    split
    · simp
    · split <;> simp
  | trashLast | mouseUp =>
    refine .inl ?_
    simp only [actionsFor]
    split <;> simp
  | forceQuit | clearAll | inputChar | backspace | resize => exact .inl (by simp [actionsFor])

theorem revalidate_not_mem_actionsFor (view : View) (app : App) (event : InputEvent) :
    .revalidate ∉ (view.actionsFor app event).1 := by
  rcases view.actionsFor_cases app event with ⟨-, other⟩ | reports
  · exact other
  · exact fun h => by simpa using reports _ h

/-- After an action that quits there is no other. -/
theorem quit_not_mem_dropLast_actionsFor (view : View) (app : App) (event : InputEvent) :
    .quit ∉ (view.actionsFor app event).1.dropLast := by
  rcases view.actionsFor_cases app event with ⟨few, -⟩ | reports
  · have none : (view.actionsFor app event).1.dropLast = [] :=
      List.eq_nil_of_length_eq_zero (by rw [List.length_dropLast]; omega)
    rw [none]
    exact List.not_mem_nil
  · exact fun h => by simpa using reports _ (List.dropLast_subset _ h)

/-- The view after a frame is the one that the frame records. -/
theorem refresh_eq_ok_iff {view recorded : View} {app : App} {width height : Nat} :
    view.refresh app width height = .ok recorded ↔
      ∃ screen, view.drawFrame app width height = .ok (recorded, screen) := by
  simp only [refresh, Fault.bind_eq_ok_iff, Except.ok.injEq, drawFrame_eq_ok_iff]
  constructor
  · rintro ⟨layout, hlayout, rfl⟩
    exact ⟨_, layout, hlayout, rfl, rfl⟩
  · rintro ⟨_, layout, hlayout, rfl, -⟩
    exact ⟨layout, hlayout, rfl⟩

end View

namespace Interaction

theorem perform_of_running {s : Interaction} (running : s.status = .running) {action : Action}
    {next : App} {effect : Effect} (step : App.Step s.app action next effect) :
    s.perform action =
      { s with
        app := next
        log := s.log ++ s.app.journal action
        status := if effect = .quit then .finished else .running
        validationDue := s.validationDue || effect = .scheduleValidation } := by
  simp [perform, running, step.update_eq]

/-- Actions of which only the last may quit are carried out as a run. -/
theorem foldl_perform {s : Interaction} (running : s.status = .running) {actions : List Action}
    (staying : .quit ∉ actions.dropLast) :
    ∃ last effects log, s.app.run actions = .ok (last, effects) ∧
      actions.foldl perform s =
        { s with
          app := last
          log
          status := if .quit ∈ effects then .finished else .running
          validationDue := s.validationDue || decide (.scheduleValidation ∈ effects) } := by
  induction actions generalizing s with
  | nil => exact ⟨s.app, [], s.log, rfl, by simp [← running]⟩
  | cons action actions ih =>
    obtain ⟨next, effect, step⟩ := App.exists_step s.app action
    rw [List.foldl_cons, perform_of_running running step]
    cases actions with
    | nil =>
      exact ⟨next, [effect], s.log ++ s.app.journal action, App.run_cons step rfl,
        by simp [eq_comm]⟩
    | cons second rest =>
      have goesOn : effect ≠ .quit := by
        rw [Ne, step.effect_eq_quit_iff]
        rintro rfl
        simp at staying
      rw [if_neg goesOn]
      let performed : Interaction :=
        { s with
          app := next
          log := s.log ++ s.app.journal action
          status := .running
          validationDue := s.validationDue || effect = .scheduleValidation }
      obtain ⟨last, effects, log, run, ends⟩ := ih (s := performed) rfl
        fun h => staying (by simp [h])
      refine ⟨last, effect :: effects, log, App.run_cons step run, ends.trans ?_⟩
      simp [performed, goesOn.symm, eq_comm, Bool.or_assoc, Bool.decide_or]

/-- An input is answered by a run of the actions that it causes. -/
theorem receive_of_running {s : Interaction} (running : s.status = .running)
    (event : InputEvent) :
    ∃ last effects log, s.app.run (s.view.actionsFor s.app event).1 = .ok (last, effects) ∧
      s.receive event =
        { s with
          app := last
          view := (s.view.actionsFor s.app event).2
          log
          status := if .quit ∈ effects then .finished else .running
          validationDue := s.validationDue || decide (.scheduleValidation ∈ effects) } := by
  have performed := foldl_perform (s := { s with view := (s.view.actionsFor s.app event).2 })
    running (s.view.quit_not_mem_dropLast_actionsFor s.app event)
  simpa [receive, running] using performed

theorem receive_of_not_running {s : Interaction} (ended : s.status ≠ .running)
    (event : InputEvent) : s.receive event = s := by
  simp [receive, ended]

theorem receiveAll_of_not_running {s : Interaction} (ended : s.status ≠ .running)
    (events : List InputEvent) : s.receiveAll events = s := by
  induction events with
  | nil => rfl
  | cons event events ih =>
    rw [receiveAll, List.foldl_cons, receive_of_not_running ended]
    exact ih

theorem perform_mark (s : Interaction) (redraw : Bool) (action : Action) :
    { s with redraw }.perform action = { s.perform action with redraw } := by
  simp only [perform]
  split
  · split <;> rfl
  · rfl

theorem foldl_perform_mark (s : Interaction) (redraw : Bool) (actions : List Action) :
    actions.foldl perform { s with redraw } = { actions.foldl perform s with redraw } := by
  induction actions generalizing s with
  | nil => rfl
  | cons action actions ih =>
    rw [List.foldl_cons, List.foldl_cons, perform_mark, ih]

/-- Whether a frame is to be drawn makes no difference to an input. -/
theorem receive_mark (s : Interaction) (redraw : Bool) (event : InputEvent) :
    { s with redraw }.receive event = { s.receive event with redraw } := by
  simp only [receive]
  split
  · exact foldl_perform_mark { s with view := (s.view.actionsFor s.app event).2 } redraw _
  · rfl

/-- Nor does an input make a difference to that. -/
theorem redraw_receiveAll (s : Interaction) (events : List InputEvent) :
    (s.receiveAll events).redraw = s.redraw := by
  induction events generalizing s with
  | nil => rfl
  | cons event events ih =>
    have same : s.receive event = { s.receive event with redraw := s.redraw } :=
      s.receive_mark s.redraw event
    refine (ih (s.receive event)).trans ?_
    rw [same]

/-! ## §2 Frames and validations -/

/-- A frame that is due is drawn or fails. -/
theorem draw_of_due {s : Interaction} (running : s.status = .running) (due : s.redraw = true)
    (size : Nat × Nat) :
    (∃ view, s.view.refresh s.app size.1 size.2 = .ok view ∧
      s.draw size = { s with view, redraw := false }) ∨
    ∃ fault, s.draw size = { s with status := .failed fault } := by
  cases drawn : s.view.refresh s.app size.1 size.2 with
  | ok view => exact .inl ⟨view, rfl, by simp [draw, running, due, drawn]⟩
  | error fault => exact .inr ⟨fault, by simp [draw, running, due, drawn]⟩

theorem draw_of_not_due {s : Interaction} (none : s.status ≠ .running ∨ s.redraw = false)
    (size : Nat × Nat) : s.draw size = s := by
  rcases none with ended | shown
  · simp [draw, ended]
  · simp [draw, shown]

/-- The ways a frame can go. -/
theorem draw_cases (s : Interaction) (size : Nat × Nat) :
    ((s.status ≠ .running ∨ s.redraw = false) ∧ s.draw size = s) ∨
      (s.status = .running ∧ s.redraw = true ∧
        ((∃ view, s.view.refresh s.app size.1 size.2 = .ok view ∧
            s.draw size = { s with view, redraw := false }) ∨
          ∃ fault, s.draw size = { s with status := .failed fault })) := by
  by_cases none : s.status ≠ .running ∨ s.redraw = false
  · exact .inl ⟨none, draw_of_not_due none size⟩
  · simp only [ne_eq, not_or, not_not, Bool.not_eq_false] at none
    obtain ⟨running, due⟩ := none
    exact .inr ⟨running, due, draw_of_due running due size⟩

/-- The state in which the validation has been carried out and is still to
be shown. -/
def validated (s : Interaction) : Interaction :=
  { s with
    app := { s.app with chips := s.app.chips.revalidate.2 }
    validationDue := false
    redraw := true }

theorem settle_of_due {s : Interaction} (running : s.status = .running)
    (due : s.validationDue = true) (size : Nat × Nat) : s.settle size = s.validated.draw size := by
  have silent : s.app.journal .revalidate = [] := rfl
  have performed : { s with validationDue := false }.perform .revalidate =
      { s with
        app := { s.app with chips := s.app.chips.revalidate.2 }
        validationDue := false } := by
    rw [perform_of_running (s := { s with validationDue := false }) running .revalidated]
    simp [silent, running]
  rw [settle, if_pos ⟨running, due⟩, performed]
  rfl

theorem settle_of_not_due {s : Interaction}
    (none : s.status ≠ .running ∨ s.validationDue = false) (size : Nat × Nat) :
    s.settle size = s := by
  rcases none with ended | quiet
  · simp [settle, ended]
  · simp [settle, quiet]

/-- The ways a validation can go. -/
theorem settle_cases (s : Interaction) (size : Nat × Nat) :
    ((s.status ≠ .running ∨ s.validationDue = false) ∧ s.settle size = s) ∨
      (s.status = .running ∧ s.validationDue = true ∧ s.settle size = s.validated.draw size) := by
  by_cases none : s.status ≠ .running ∨ s.validationDue = false
  · exact .inl ⟨none, settle_of_not_due none size⟩
  · simp only [ne_eq, not_or, not_not, Bool.not_eq_false] at none
    obtain ⟨running, due⟩ := none
    exact .inr ⟨running, due, settle_of_due running due size⟩

end Interaction

end FilterChips

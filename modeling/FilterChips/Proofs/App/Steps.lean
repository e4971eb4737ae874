/-
FilterChips.Proofs.App.Steps — what an action can do to the application,
case by case, and what runs of actions reach.

`App.update` is one function over ten kinds of action. `Step` is the same
behaviour as a relation with one constructor for each way an action can
go, guards included, and `update_eq_ok_iff` says that the two agree. So
an invariant is proved by `cases` on a step, and nothing else unfolds
`update`.

Every action has a step (`exists_step`). The fault of a second drag needs
a session, and `update` looks for one before it begins: runs never fail
(`exists_run`), although `App.run` could in principle.
-/
import FilterChips.App
import FilterChips.Proofs.Collection.Conservation

namespace FilterChips

namespace App

/-! ## §1 The ways an action can go -/

/-- An action takes the application to a state, with an effect. -/
inductive Step (app : App) : Action → App → Effect → Prop where
  | blocked {action : Action} :
      app.isBlocked action = true → Step app action app .none
  | added {chip : Chip} {chips : Collection} :
      app.chips.add chip = (true, chips) →
      Step app (.addChip chip) { app with chips, status := "Added " ++ chip.label }
        .scheduleValidation
  | refused {chip : Chip} {chips : Collection} :
      app.chips.add chip = (false, chips) → Step app (.addChip chip) app .none
  | trashed {index : Nat} {chip : Chip} {chips : Collection} :
      app.drag.session = none → app.chips.trash index = (some chip, chips) →
      Step app (.trashChip index) { app with chips, status := "Removed " ++ chip.label }
        .scheduleValidation
  | missed {index : Nat} {chips : Collection} :
      app.drag.session = none → app.chips.trash index = (none, chips) →
      Step app (.trashChip index) app .none
  | cleared :
      app.drag.session = none →
      Step app .clearAll { app with chips := app.chips.clear, status := "Cleared all chips" }
        .scheduleValidation
  | begun {index : Nat} {pointer : Drag.Point Double} {geometry : List (Drag.ChipRect Double)} :
      app.drag.session = none → index < app.chips.sequence.length →
      Step app (.beginDrag index pointer geometry)
        { app with drag := { app.drag with
            session := some ⟨index, index, pointer, pointer, false, geometry⟩
            hub := app.drag.hub.acquire } } .none
  | notBegun {index : Nat} {pointer : Drag.Point Double}
      {geometry : List (Drag.ChipRect Double)} :
      app.drag.isDragging = true ∨ app.chips.sequence.length ≤ index →
      Step app (.beginDrag index pointer geometry) app .none
  | moved {pointer : Drag.Point Double} :
      Step app (.pointerMoved pointer) { app with drag := (app.drag.dragTo pointer).2 } .none
  | hovered {onTarget : Bool} :
      Step app (.deleteTargetHover onTarget) { app with drag := app.drag.hover onTarget } .none
  | dropped {onTarget : Bool} :
      app.drag.isDragging = true →
      Step app (.endDrag onTarget) (app.drop onTarget) .scheduleValidation
  | cancelled :
      app.drag.isDragging = true →
      Step app .cancelDrag
        { chips := app.chips.apply app.drag.cancel.1, drag := app.drag.cancel.2,
          status := "Drag cancelled" } .scheduleValidation
  | notDropped {onTarget : Bool} :
      app.drag.session = none → Step app (.endDrag onTarget) app .none
  | notCancelled :
      app.drag.session = none → Step app .cancelDrag app .none
  | revalidated :
      Step app .revalidate { app with chips := app.chips.revalidate.2 } .none
  | quit : Step app .quit app .quit

theorem isBlocked_of_idle {app : App} (h : app.drag.session = none) (action : Action) :
    app.isBlocked action = false := by
  have idle := (Drag.Engine.isDragging_eq_false_iff app.drag).mpr h
  cases action <;> simp [isBlocked, idle]

/-- A step is what `update` does. -/
theorem Step.update_eq {app next : App} {action : Action} {effect : Effect}
    (h : Step app action next effect) : app.update action = .ok (next, effect) := by
  cases h with
  | blocked h => simp [update, h]
  | added h => simp [update, isBlocked, h]
  | refused h => simp [update, isBlocked, h]
  | trashed hs h => simp [update, isBlocked_of_idle hs, h]
  | missed hs h => simp [update, isBlocked_of_idle hs, h]
  | cleared hs => simp [update, isBlocked_of_idle hs]
  | @begun index pointer geometry hs hi =>
    have idle := (Drag.Engine.isDragging_eq_false_iff app.drag).mpr hs
    have begun := Drag.Engine.begin_of_idle hs index pointer geometry
    simp [update, isBlocked, idle, Nat.not_le.mpr hi, begun, bind, Except.bind]
  | notBegun h => simp [update, isBlocked, h]
  | moved => simp [update, isBlocked]
  | hovered => simp [update, isBlocked]
  | dropped h => simp [update, isBlocked, h]
  | cancelled h => simp [update, isBlocked, h]
  | notDropped hs =>
    simp [update, isBlocked, (Drag.Engine.isDragging_eq_false_iff app.drag).mpr hs]
  | notCancelled hs =>
    simp [update, isBlocked, (Drag.Engine.isDragging_eq_false_iff app.drag).mpr hs]
  | revalidated => simp [update, isBlocked]
  | quit => simp [update, isBlocked]

/-- Every action goes one of the ways, so `update` never fails. -/
theorem exists_step (app : App) (action : Action) :
    ∃ next effect, Step app action next effect := by
  cases hb : app.isBlocked action with
  | true => exact ⟨_, _, .blocked hb⟩
  | false =>
    cases action with
    | addChip chip =>
      rcases h : app.chips.add chip with ⟨_ | _, chips⟩
      · exact ⟨_, _, .refused h⟩
      · exact ⟨_, _, .added h⟩
    | trashChip index =>
      have idle := (Drag.Engine.isDragging_eq_false_iff app.drag).mp hb
      rcases h : app.chips.trash index with ⟨_ | chip, chips⟩
      · exact ⟨_, _, .missed idle h⟩
      · exact ⟨_, _, .trashed idle h⟩
    | clearAll =>
      exact ⟨_, _, .cleared ((Drag.Engine.isDragging_eq_false_iff app.drag).mp hb)⟩
    | beginDrag index pointer geometry =>
      by_cases h : app.drag.isDragging = true ∨ app.chips.sequence.length ≤ index
      · exact ⟨_, _, .notBegun h⟩
      · obtain ⟨idle, hi⟩ := not_or.mp h
        refine ⟨_, _, .begun ?_ (Nat.not_le.mp hi)⟩
        exact (Drag.Engine.isDragging_eq_false_iff app.drag).mp (Bool.eq_false_iff.mpr idle)
    | pointerMoved pointer => exact ⟨_, _, .moved⟩
    | deleteTargetHover onTarget => exact ⟨_, _, .hovered⟩
    | endDrag onTarget =>
      cases h : app.drag.isDragging with
      | true => exact ⟨_, _, .dropped h⟩
      | false => exact ⟨_, _, .notDropped ((Drag.Engine.isDragging_eq_false_iff app.drag).mp h)⟩
    | cancelDrag =>
      cases h : app.drag.isDragging with
      | true => exact ⟨_, _, .cancelled h⟩
      | false =>
        exact ⟨_, _, .notCancelled ((Drag.Engine.isDragging_eq_false_iff app.drag).mp h)⟩
    | revalidate => exact ⟨_, _, .revalidated⟩
    | quit => exact ⟨_, _, .quit⟩

theorem update_eq_ok_iff {app next : App} {action : Action} {effect : Effect} :
    app.update action = .ok (next, effect) ↔ Step app action next effect := by
  constructor
  · intro h
    obtain ⟨next', effect', step⟩ := exists_step app action
    have same := step.update_eq.symm.trans h
    cases same
    exact step
  · exact Step.update_eq

/-! ## §2 Runs -/

/-- The application after some actions, together with the effects that
answered them. -/
def run (app : App) : List Action → Except Fault (App × List Effect)
  | [] => .ok (app, [])
  | action :: actions => do
    let (next, effect) ← app.update action
    let (last, effects) ← next.run actions
    .ok (last, effect :: effects)

theorem run_cons {app next last : App} {action : Action} {actions : List Action}
    {effect : Effect} {effects : List Effect} (step : Step app action next effect)
    (h : next.run actions = .ok (last, effects)) :
    app.run (action :: actions) = .ok (last, effect :: effects) := by
  simp [run, step.update_eq, h, bind, Except.bind]

/-- A run of a longer list is one step and the run of the rest. -/
theorem run_cons_eq_ok_iff {app last : App} {action : Action} {actions : List Action}
    {effects : List Effect} :
    app.run (action :: actions) = .ok (last, effects) ↔
      ∃ next effect rest, Step app action next effect ∧
        next.run actions = .ok (last, rest) ∧ effects = effect :: rest := by
  constructor
  · intro h
    obtain ⟨next, effect, step⟩ := exists_step app action
    simp only [run, step.update_eq, bind, Except.bind] at h
    cases hr : next.run actions with
    | error fault => simp [hr] at h
    | ok result =>
      obtain ⟨last', rest⟩ := result
      simp only [hr, Except.ok.injEq, Prod.mk.injEq] at h
      obtain ⟨rfl, rfl⟩ := h
      exact ⟨next, effect, rest, step, hr, rfl⟩
  · rintro ⟨next, effect, rest, step, h, rfl⟩
    exact run_cons step h

/-- No run of actions fails. -/
theorem exists_run (app : App) (actions : List Action) :
    ∃ last effects, app.run actions = .ok (last, effects) := by
  induction actions generalizing app with
  | nil => exact ⟨app, [], rfl⟩
  | cons action actions ih =>
    obtain ⟨next, effect, step⟩ := exists_step app action
    obtain ⟨last, effects, h⟩ := ih next
    exact ⟨last, effect :: effects, run_cons step h⟩

/-! ## §3 The states that actions reach -/

/-- The states that actions reach from the start of the application, with
any settings and any collection of chips. -/
inductive Reachable : App → Prop where
  | start {chips : Collection} (config : Drag.Config Double) :
      chips.Reachable → Reachable (App.start chips config)
  | step {app next : App} {action : Action} {effect : Effect} :
      Reachable app → Step app action next effect → Reachable next

/-- What an action does to the chips is a run of operations on them. -/
theorem Step.exists_edits {app next : App} {action : Action} {effect : Effect}
    (h : Step app action next effect) : ∃ edits, next.chips = app.chips.performAll edits := by
  cases h with
  | blocked => exact ⟨[], rfl⟩
  | @added chip chips h => exact ⟨[.add chip], by simp [Collection.perform, h]⟩
  | refused => exact ⟨[], rfl⟩
  | @trashed index chip chips _ h => exact ⟨[.trash index], by simp [Collection.perform, h]⟩
  | missed => exact ⟨[], rfl⟩
  | cleared => exact ⟨[.clear], rfl⟩
  | begun => exact ⟨[], rfl⟩
  | notBegun => exact ⟨[], rfl⟩
  | moved => exact ⟨[], rfl⟩
  | hovered => exact ⟨[], rfl⟩
  | @dropped onTarget => exact ⟨[.apply (app.drag.release onTarget).1], rfl⟩
  | cancelled => exact ⟨[.apply app.drag.cancel.1], rfl⟩
  | notDropped => exact ⟨[], rfl⟩
  | notCancelled => exact ⟨[], rfl⟩
  | revalidated => exact ⟨[.revalidate], rfl⟩
  | quit => exact ⟨[], rfl⟩

/-- So the chips are never in a state that their own operations do not
reach. -/
theorem Reachable.chips {app : App} (h : app.Reachable) : app.chips.Reachable := by
  induction h with
  | start _ h => exact h
  | step _ step ih =>
    obtain ⟨edits, heq⟩ := step.exists_edits
    rw [heq]
    exact ih.performAll edits

theorem Reachable.run {app last : App} (h : app.Reachable) {actions : List Action}
    {effects : List Effect} (hr : app.run actions = .ok (last, effects)) : last.Reachable := by
  induction actions generalizing app effects with
  | nil =>
    cases hr
    exact h
  | cons action actions ih =>
    obtain ⟨next, effect, rest, step, tail, -⟩ := run_cons_eq_ok_iff.mp hr
    exact ih (h.step step) tail

end App

end FilterChips

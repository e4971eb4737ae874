/-
FilterChips.Proofs.App.Effects — what an action answers is what it changed.

Whoever dispatches actions sees their effects and nothing else of what
they do to the chips. `Step.chips_cases` says that this is enough: an
action that answers `scheduleValidation` is an operation on the chips that
asks for a validation, `revalidate` is the validation, and every other
answer stands for no change at all.

A driver that notes the effects therefore knows when a validation is due
(`Driver.Informed`), whatever it dispatches and however many actions it
dispatches between two of its validations, and the verdict after each of
these is the one on the current sequence.
-/
import FilterChips.Proofs.App.Steps
import FilterChips.Proofs.Collection.Validation

namespace FilterChips

namespace App

/-! ## §1 One action -/

/-- An action asks for a validation and says so, and adds no chip but its
own; or it is the validation, or it leaves the chips and the message in
the status line alone. -/
theorem Step.chips_cases {app next : App} {action : Action} {effect : Effect}
    (step : Step app action next effect) :
    (effect = .scheduleValidation ∧ action ≠ .revalidate ∧
      ∃ edit, (app.chips.event edit).asks = true ∧ next.chips = app.chips.perform edit ∧
        ∀ chip, edit = .add chip → action = .addChip chip) ∨
    (effect = .none ∧ action = .revalidate ∧ next.chips = app.chips.revalidate.2 ∧
      next.status = app.status) ∨
    (effect ≠ .scheduleValidation ∧ action ≠ .revalidate ∧ next.chips = app.chips ∧
      next.status = app.status) := by
  cases step with
  | blocked blocked =>
    refine .inr (.inr ⟨by simp, ?_, rfl, rfl⟩)
    rintro rfl
    cases blocked
  | @added chip chips h =>
    refine .inl ⟨rfl, by simp, .add chip, ?_, ?_, ?_⟩
    · simp [Collection.event, h, Collection.Event.asks]
    · simp [Collection.perform, h]
    · rintro _ ⟨⟩
      rfl
  | @trashed index chip chips _ h =>
    refine .inl ⟨rfl, by simp, .trash index, ?_, ?_, by simp⟩
    · simp [Collection.event, h, Collection.Event.asks]
    · simp [Collection.perform, h]
  | cleared => exact .inl ⟨rfl, by simp, .clear, rfl, rfl, by simp⟩
  | dropped => exact .inl ⟨rfl, by simp, .apply _, rfl, rfl, by simp⟩
  | cancelled => exact .inl ⟨rfl, by simp, .apply _, rfl, rfl, by simp⟩
  | revalidated => exact .inr (.inl ⟨rfl, rfl, rfl, rfl⟩)
  | refused | missed | begun | notBegun | moved | hovered | notDropped | notCancelled | quit =>
    exact .inr (.inr ⟨by simp, by simp, rfl, rfl⟩)

variable {app next : App} {action : Action} {effect : Effect}

/-- After an action a validation is due if the effect says so, or if one
was due and this was not the validation. -/
theorem Step.pending_iff (step : Step app action next effect) :
    next.chips.schedule.pending = true ↔
      effect = .scheduleValidation ∨
        app.chips.schedule.pending = true ∧ action ≠ .revalidate := by
  rcases step.chips_cases with
    ⟨said, other, edit, asks, chips, -⟩ | ⟨quiet, validation, chips, -⟩ | ⟨quiet, other, chips, -⟩
  · simp [chips, Collection.schedule_perform, asks, said]
  · simp [chips, Collection.pending_revalidate, quiet, validation]
  · simp [chips, quiet, other]

/-- Without the effect nothing that is shown of the chips has changed. -/
theorem Step.unchanged (step : Step app action next effect) (quiet : effect ≠ .scheduleValidation) :
    next.chips.sequence = app.chips.sequence ∧ next.chips.pool = app.chips.pool ∧
      next.status = app.status := by
  rcases step.chips_cases with ⟨said, -⟩ | ⟨-, -, chips, status⟩ | ⟨-, -, chips, status⟩
  · exact absurd said quiet
  · rw [chips]
    exact ⟨Collection.sequence_revalidate _, Collection.pool_revalidate _, status⟩
  · rw [chips]
    exact ⟨rfl, rfl, status⟩

/-- Only the validation validates. -/
theorem Step.verdict_of_ne (step : Step app action next effect) (other : action ≠ .revalidate) :
    next.chips.verdict = app.chips.verdict ∧
      next.chips.schedule.runs = app.chips.schedule.runs := by
  rcases step.chips_cases with ⟨-, -, edit, asks, chips, -⟩ | ⟨-, validation, -⟩ | ⟨-, -, chips, -⟩
  · have noRun := Collection.Event.validates_of_asks asks
    rw [chips, Collection.schedule_perform, noRun]
    exact ⟨Collection.verdict_perform_of_not_validates noRun, rfl⟩
  · exact absurd validation other
  · rw [chips]
    exact ⟨rfl, rfl⟩

end App

/-! ## §2 A driver -/

/-- An application, and whether an action since its last validation asked
for one, as far as the effects tell. -/
structure Driver where
  app : App
  due : Bool

namespace Driver

/-- Nothing has been dispatched yet. -/
def start (app : App) : Driver := ⟨app, false⟩

/-- Dispatches an action and notes the effect. -/
def act (driver : Driver) (action : Action) : Except Fault Driver := do
  let (app, effect) ← driver.app.update action
  .ok ⟨app, effect = .scheduleValidation || (driver.due && action ≠ .revalidate)⟩

/-- Dispatches a validation if one is due. -/
def settle (driver : Driver) : Except Fault Driver :=
  if driver.due then driver.act .revalidate else .ok driver

/-- Takes some turns: in each, it dispatches some actions and then settles
what is due. -/
def play (driver : Driver) : List (List Action) → Except Fault Driver
  | [] => .ok driver
  | actions :: turns => do
    let acted ← actions.foldlM act driver
    let settled ← acted.settle
    settled.play turns

theorem act_eq {driver : Driver} {action : Action} {next : App} {effect : Effect}
    (step : App.Step driver.app action next effect) :
    driver.act action =
      .ok ⟨next, effect = .scheduleValidation || (driver.due && action ≠ .revalidate)⟩ := by
  simp [act, step.update_eq, bind, Except.bind]

/-- What the driver of an application knows of it: what it takes to be due
is due, and if nothing was due at the beginning, there is nothing else. -/
structure Informed (app : App) (driver : Driver) : Prop where
  pending_of_due : driver.due = true → driver.app.chips.schedule.pending = true
  due_of_pending : app.chips.schedule.pending = false →
    driver.app.chips.schedule.pending = true → driver.due = true
  reachable : app.Reachable → driver.app.Reachable

theorem informed_start (app : App) : Informed app (start app) where
  pending_of_due := nofun
  due_of_pending := fun none some => by simp [start, none] at some
  reachable := id

/-- Every action leaves the driver informed. -/
theorem Informed.exists_act {app : App} {driver : Driver} (h : Informed app driver)
    (action : Action) : ∃ next, driver.act action = .ok next ∧ Informed app next := by
  obtain ⟨next, effect, step⟩ := App.exists_step driver.app action
  refine ⟨_, act_eq step, ⟨fun due => ?_, fun none pending => ?_, fun r => (h.reachable r).step step⟩⟩
  · rw [step.pending_iff]
    simp only [Bool.or_eq_true, Bool.and_eq_true, decide_eq_true_eq] at due
    exact due.imp_right (And.imp_left h.pending_of_due)
  · simp only [Bool.or_eq_true, Bool.and_eq_true, decide_eq_true_eq]
    exact (step.pending_iff.mp pending).imp_right (And.imp_left (h.due_of_pending none))

theorem Informed.exists_acts {app : App} {driver : Driver} (h : Informed app driver)
    (actions : List Action) :
    ∃ next, actions.foldlM act driver = .ok next ∧ Informed app next := by
  induction actions generalizing driver with
  | nil => exact ⟨driver, rfl, h⟩
  | cons action actions ih =>
    obtain ⟨mid, first, informed⟩ := h.exists_act action
    obtain ⟨next, rest, informed⟩ := ih informed
    refine ⟨next, ?_, informed⟩
    rw [List.foldlM_cons, first]
    exact rest

theorem settle_of_due {driver : Driver} (h : driver.due = true) :
    driver.settle =
      .ok ⟨{ driver.app with chips := driver.app.chips.revalidate.2 }, false⟩ := by
  rw [settle, if_pos h, act_eq .revalidated]
  simp

theorem settle_of_not_due {driver : Driver} (h : driver.due = false) :
    driver.settle = .ok driver := by
  simp [settle, h]

theorem Informed.exists_settle {app : App} {driver : Driver} (h : Informed app driver) :
    ∃ next, driver.settle = .ok next ∧ Informed app next := by
  cases due : driver.due with
  | false => exact ⟨driver, settle_of_not_due due, h⟩
  | true =>
    obtain ⟨next, validated, informed⟩ := h.exists_act .revalidate
    exact ⟨next, by rwa [settle, if_pos due], informed⟩

/-- So every run leaves it informed. -/
theorem Informed.exists_play {app : App} {driver : Driver} (h : Informed app driver)
    (turns : List (List Action)) :
    ∃ next, driver.play turns = .ok next ∧ Informed app next := by
  induction turns generalizing driver with
  | nil => exact ⟨driver, rfl, h⟩
  | cons actions turns ih =>
    obtain ⟨acted, acts, informed⟩ := h.exists_acts actions
    obtain ⟨settled, settles, informed⟩ := informed.exists_settle
    obtain ⟨next, rest, informed⟩ := ih informed
    refine ⟨next, ?_, informed⟩
    simp only [play, acts, settles, bind, Except.bind]
    exact rest

/-- What is due is validated, once. -/
theorem Informed.validates {app : App} {driver settled : Driver} (h : Informed app driver)
    (due : driver.due = true) (settles : driver.settle = .ok settled) :
    settled.app.chips.verdict = Expression.validate settled.app.chips.labels ∧
      settled.app.chips.schedule.runs = driver.app.chips.schedule.runs + 1 := by
  rw [settle_of_due due, Collection.revalidate_of_pending (h.pending_of_due due)] at settles
  cases settles
  exact ⟨rfl, rfl⟩

/-- When nothing was due at the beginning, nothing is due after a turn. -/
theorem Informed.pending_settle {app : App} {driver settled : Driver} (h : Informed app driver)
    (none : app.chips.schedule.pending = false) (settles : driver.settle = .ok settled) :
    settled.app.chips.schedule.pending = false := by
  cases due : driver.due with
  | false =>
    rw [settle_of_not_due due] at settles
    cases settles
    exact Bool.eq_false_iff.mpr fun pending => by simp [h.due_of_pending none pending] at due
  | true =>
    rw [settle_of_due due] at settles
    cases settles
    exact Collection.pending_revalidate _

end Driver

namespace App

/-! ## §3 What the effects report -/

/-- **Effects report exactly the changes**: every action succeeds, and
afterwards a validation is due just when the effect says so or one was due
that the action has not carried out; without the effect the sequence, the
pool and the message are as before; and the verdict and the counter of the
validations change under `revalidate` alone.

So a driver that validates at the end of a turn just when an action since
its last validation asked for it has the verdict on the current sequence
after each validation, and has run the validator once for it. If the
application is a reachable one in which nothing was due, then nothing is
due and the verdict is current after every turn, validated or not. -/
theorem effects_report_changes (app : App) :
    (∀ action, ∃ next effect, app.update action = .ok (next, effect) ∧
      (next.chips.schedule.pending = true ↔
        effect = .scheduleValidation ∨
          app.chips.schedule.pending = true ∧ action ≠ .revalidate) ∧
      (effect ≠ .scheduleValidation →
        next.chips.sequence = app.chips.sequence ∧ next.chips.pool = app.chips.pool ∧
          next.status = app.status) ∧
      (action ≠ .revalidate →
        next.chips.verdict = app.chips.verdict ∧
          next.chips.schedule.runs = app.chips.schedule.runs)) ∧
    ∀ (turns : List (List Action)) (actions : List Action), ∃ before acted settled,
      (Driver.start app).play turns = .ok before ∧
      actions.foldlM Driver.act before = .ok acted ∧ acted.settle = .ok settled ∧
      (acted.due = true →
        settled.app.chips.verdict = Expression.validate settled.app.chips.labels ∧
          settled.app.chips.schedule.runs = acted.app.chips.schedule.runs + 1) ∧
      (app.Reachable → app.chips.schedule.pending = false →
        settled.app.chips.schedule.pending = false ∧
          settled.app.chips.verdict = Expression.validate settled.app.chips.labels) := by
  constructor
  · intro action
    obtain ⟨next, effect, step⟩ := exists_step app action
    exact ⟨next, effect, step.update_eq, step.pending_iff, step.unchanged, step.verdict_of_ne⟩
  · intro turns actions
    obtain ⟨before, played, informed⟩ := (Driver.informed_start app).exists_play turns
    obtain ⟨acted, acts, informed⟩ := informed.exists_acts actions
    obtain ⟨settled, settles, settledInformed⟩ := informed.exists_settle
    refine ⟨before, acted, settled, played, acts, settles,
      fun due => informed.validates due settles, fun reachable none => ?_⟩
    have notPending := informed.pending_settle none settles
    refine ⟨notPending, ?_⟩
    rcases (settledInformed.reachable reachable).chips.isCurrent with pending | current
    · simp [notPending] at pending
    · exact current

end App

end FilterChips

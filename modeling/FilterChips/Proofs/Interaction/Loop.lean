/-
FilterChips.Proofs.Interaction.Loop — what holds in every run of the loop.

`Interaction.turn` alternates frames, validations and batches of inputs.
Other modules state what these do over relations that leave their order
open. The loop is one of the orders allowed, so that what holds of these
relations holds of it:

* what it reaches from some settings is in `Setup.Reaches`
  (`exists_reaches_play`);
* on a screen of one size, what it reaches is in `View.Shown`
  (`shown_play`);
* it dispatches actions as a `Driver` does, and notes the same demand for
  a validation (`driven_play`);
* each of its states is that of a frame after a batch of inputs
  (`isSinceFrame_play`).

All these are kept by frames, inputs and the validation that was asked
for (`Kept`), and so by every run (`Kept.play`).

What the alternation is for: where the loop waits, the verdict is the one
on the current sequence (`current_while_waiting`) and the last frame shows
the application as it is (`shown_while_waiting`). The second needs a
condition: inputs taken along after a wait that came to nothing ask for no
frame.
-/
import FilterChips.Launch
import FilterChips.Proofs.App.Effects
import FilterChips.Proofs.Interaction.Kinds
import FilterChips.Proofs.Interaction.Release
import FilterChips.Proofs.Interaction.Steps

namespace FilterChips

namespace Interaction

/-! ## §1 Runs -/

/-- Kept by frames of some sizes, with and without a validation before
them, and by inputs; whether a frame is to be drawn does not matter. -/
structure Kept (sizes : Nat × Nat → Prop) (P : Interaction → Prop) : Prop where
  draw {s : Interaction} {size : Nat × Nat} : P s → sizes size → P (s.draw size)
  settle {s : Interaction} {size : Nat × Nat} : P s → sizes size → P (s.settle size)
  receive {s : Interaction} (event : InputEvent) : P s → P (s.receive event)
  mark {s : Interaction} (redraw : Bool) : P s → P { s with redraw }

namespace Kept

variable {sizes : Nat × Nat → Prop} {P : Interaction → Prop} {s : Interaction}

/-- It is enough to look at frames that are drawn, at the validation by
itself, and at inputs before the end. -/
theorem of_steps (fault : ∀ {s} fault, P s → P { s with status := .failed fault })
    (mark : ∀ {s} redraw, P s → P { s with redraw })
    (frame : ∀ {s size view}, P s → sizes size →
      s.view.refresh s.app size.1 size.2 = .ok view → P { s with view, redraw := false })
    (validated : ∀ {s}, P s → s.validationDue = true → P s.validated)
    (input : ∀ {s} event, P s → s.status = .running → P (s.receive event)) : Kept sizes P := by
  have draw : ∀ {s : Interaction} {size : Nat × Nat}, P s → sizes size → P (s.draw size) := by
    intro s size h allowed
    rcases s.draw_cases size with
      ⟨-, same⟩ | ⟨-, -, ⟨view, drawn, next⟩ | ⟨fault', next⟩⟩
    · rwa [same]
    · rw [next]
      exact frame h allowed drawn
    · rw [next]
      exact fault fault' h
  refine ⟨draw, ?_, ?_, mark⟩
  · intro s size h allowed
    rcases s.settle_cases size with ⟨-, same⟩ | ⟨-, due, next⟩
    · rwa [same]
    · rw [next]
      exact draw (validated h due) allowed
  · intro s event h
    by_cases running : s.status = .running
    · exact input event h running
    · rwa [receive_of_not_running running]

theorem receiveAll (kept : Kept sizes P) (h : P s) (events : List InputEvent) :
    P (s.receiveAll events) := by
  induction events generalizing s with
  | nil => exact h
  | cons event events ih => exact ih (kept.receive event h)

/-- After the frame of a turn, the rest of it keeps what holds. -/
theorem turn (kept : Kept sizes P) {t : Turn} (h : P (s.draw t.size))
    (allowed : sizes t.validatedSize) : P (s.turn t) :=
  kept.receiveAll (kept.mark _ (kept.settle h allowed)) _

theorem play (kept : Kept sizes P) (h : P s) {turns : List Turn}
    (allowed : ∀ t ∈ turns, sizes t.size ∧ sizes t.validatedSize) : P (s.play turns) := by
  induction turns generalizing s with
  | nil => exact h
  | cons t turns ih =>
    obtain ⟨⟨first, second⟩, later⟩ := List.forall_mem_cons.mp allowed
    exact ih (kept.turn (kept.draw h first) second) later

end Kept

/-- A frame has failed. -/
def HasFailed (s : Interaction) : Prop :=
  ∃ fault, s.status = .failed fault

theorem HasFailed.not_running {s : Interaction} (failed : s.HasFailed) :
    s.status ≠ .running := by
  obtain ⟨fault, h⟩ := failed
  simp [h]

/-- What holds if no frame has failed is kept, too. -/
theorem Kept.unless_failed {sizes : Nat × Nat → Prop} {P : Interaction → Prop}
    (kept : Kept sizes P) : Kept sizes fun s => s.HasFailed ∨ P s where
  draw := by
    rintro s size (failed | h) allowed
    · rw [draw_of_not_due (.inl failed.not_running)]
      exact .inl failed
    · exact .inr (kept.draw h allowed)
  settle := by
    rintro s size (failed | h) allowed
    · rw [settle_of_not_due (.inl failed.not_running)]
      exact .inl failed
    · exact .inr (kept.settle h allowed)
  receive := by
    rintro s event (failed | h)
    · rw [receive_of_not_running failed.not_running]
      exact .inl failed
    · exact .inr (kept.receive event h)
  mark := fun redraw h => h.imp id (kept.mark redraw)

/-- What the frame of the first turn brings about holds after every run of
one turn or more. -/
theorem Kept.play_of_draw {sizes : Nat × Nat → Prop} {P : Interaction → Prop}
    (kept : Kept sizes P) {s : Interaction} (first : ∀ {size}, sizes size → P (s.draw size))
    {turns : List Turn} (nonempty : turns ≠ [])
    (allowed : ∀ t ∈ turns, sizes t.size ∧ sizes t.validatedSize) : P (s.play turns) := by
  obtain ⟨t, turns, rfl⟩ := List.exists_cons_of_ne_nil nonempty
  obtain ⟨⟨allowed₁, allowed₂⟩, later⟩ := List.forall_mem_cons.mp allowed
  exact kept.play (kept.turn (first allowed₁) allowed₂) later

theorem turn_of_not_running {s : Interaction} (ended : s.status ≠ .running) (t : Turn) :
    s.turn t = { s with redraw := s.redraw || t.first.isSome } := by
  have waits : s.waiting t = s := by
    rw [waiting, draw_of_not_due (.inl ended), settle_of_not_due (.inl ended)]
  rw [turn, waits]
  exact receiveAll_of_not_running (s := { s with redraw := s.redraw || t.first.isSome }) ended _

/-- After the end nothing more is done. -/
theorem play_of_not_running {s : Interaction} (ended : s.status ≠ .running)
    (turns : List Turn) : ∃ redraw, s.play turns = { s with redraw } := by
  induction turns generalizing s with
  | nil => exact ⟨s.redraw, rfl⟩
  | cons t turns ih =>
    obtain ⟨redraw, later⟩ := ih (s := s.turn t) (by rwa [turn_of_not_running ended])
    refine ⟨redraw, ?_⟩
    rw [play, List.foldl_cons]
    exact later.trans (by rw [turn_of_not_running ended])

/-! ## §2 The loop among the orders allowed -/

theorem kept_reaches (setup : Setup) :
    Kept (fun _ => True) fun s => ∃ caused, setup.Reaches s.app s.view caused := by
  refine .of_steps (fun _ h => h) (fun _ h => h) ?frame ?validated ?input
  case frame =>
    rintro s size view ⟨caused, reaches⟩ - drawn
    obtain ⟨screen, drawn⟩ := View.refresh_eq_ok_iff.mp drawn
    exact ⟨caused, reaches.frame drawn⟩
  case validated =>
    rintro s ⟨caused, reaches⟩ -
    exact ⟨caused, reaches.action (.inr rfl) App.Step.revalidated.update_eq⟩
  case input =>
    rintro s event ⟨caused, reaches⟩ running
    obtain ⟨last, effects, log, run, received⟩ := receive_of_running running event
    rw [received]
    exact ⟨_, reaches.answer event run⟩

/-- **The loop from some settings**: on screens of any sizes and with any
inputs, it reaches no state but those which frames, inputs and validations
reach in any order. -/
theorem exists_reaches_play (setup : Setup) (turns : List Turn) :
    let s := (start setup.app (.start setup.cellWidth setup.cellHeight)).play turns
    ∃ caused, setup.Reaches s.app s.view caused :=
  (kept_reaches setup).play ⟨[], .start⟩ fun _ _ => ⟨trivial, trivial⟩

theorem kept_shown (width height : Nat) :
    Kept (· = (width, height)) fun s => View.Shown width height s.app s.view := by
  refine .of_steps (fun _ h => h) (fun _ h => h) ?frame ?validated ?input
  case frame =>
    rintro s _ view shown rfl drawn
    obtain ⟨screen, drawn⟩ := View.refresh_eq_ok_iff.mp drawn
    exact .frame shown.reachable drawn
  case validated => exact fun shown _ => shown.validation App.Step.revalidated.update_eq
  case input =>
    intro s event shown running
    obtain ⟨last, effects, log, run, received⟩ := receive_of_running running event
    rw [received]
    exact shown.input event run

/-- **The loop on a screen of one size**: from a reachable application,
after one turn or more, it is in a state that frames of this size, inputs
and validations reach, unless a frame has failed. -/
theorem shown_play {app : App} (reachable : app.Reachable) (view : View) (width height : Nat)
    {turns : List Turn} (nonempty : turns ≠ [])
    (sizes : ∀ t ∈ turns, t.size = (width, height) ∧ t.validatedSize = (width, height)) :
    let s := (start app view).play turns
    s.HasFailed ∨ View.Shown width height s.app s.view := by
  refine (kept_shown width height).unless_failed.play_of_draw ?_ nonempty sizes
  rintro _ rfl
  rcases draw_of_due (s := start app view) rfl rfl (width, height) with
    ⟨recorded, drawn, next⟩ | ⟨fault, next⟩
  · obtain ⟨screen, drawn⟩ := View.refresh_eq_ok_iff.mp drawn
    rw [next]
    exact .inr (.frame reachable drawn)
  · exact .inl ⟨fault, by rw [next]⟩

end Interaction

namespace Driver

/-- A run of actions other than the validation is one of the driver. -/
theorem acts_of_run {app last : App} {actions : List Action} {effects : List Effect}
    (run : app.run actions = .ok (last, effects)) (other : .revalidate ∉ actions) (due : Bool) :
    actions.foldlM act ⟨app, due⟩ = .ok ⟨last, due || decide (.scheduleValidation ∈ effects)⟩ := by
  induction actions generalizing app due effects with
  | nil =>
    cases run
    simp [pure, Except.pure]
  | cons action actions ih =>
    obtain ⟨next, effect, rest, step, tail, rfl⟩ := App.run_cons_eq_ok_iff.mp run
    obtain ⟨notThis, notLater⟩ := List.ne_and_not_mem_of_not_mem_cons other
    rw [List.foldlM_cons, act_eq step]
    refine (ih tail notLater _).trans ?_
    simp [notThis.symm, eq_comm, Bool.decide_or, Bool.or_assoc, Bool.or_left_comm due]

/-- One turn more at the end. -/
theorem play_concat {driver before acted settled : Driver} {batches : List (List Action)}
    {actions : List Action} (played : driver.play batches = .ok before)
    (acts : actions.foldlM act before = .ok acted) (settles : acted.settle = .ok settled) :
    driver.play (batches ++ [actions]) = .ok settled := by
  induction batches generalizing driver with
  | nil =>
    cases played
    simp [play, acts, settles, bind, Except.bind]
  | cons batch batches ih =>
    simp only [play, Fault.bind_eq_ok_iff] at played
    obtain ⟨mid, acts', settled', settles', rest⟩ := played
    simp only [List.cons_append, play, acts', settles', bind, Except.bind]
    exact ih rest

end Driver

namespace Interaction

/-- A driver has come to the same application and the same demand for a
validation. -/
def DrivenFrom (app : App) (s : Interaction) : Prop :=
  ∃ (batches : List (List Action)) (before : Driver) (actions : List Action),
    (Driver.start app).play batches = .ok before ∧
      actions.foldlM Driver.act before = .ok ⟨s.app, s.validationDue⟩

theorem kept_driven (app : App) : Kept (fun _ => True) (DrivenFrom app) := by
  refine .of_steps (fun _ h => h) (fun _ h => h) (fun h _ _ => h) ?validated ?input
  case validated =>
    rintro s ⟨batches, before, actions, played, acted⟩ due
    refine ⟨batches ++ [actions], _, [], ?_, rfl⟩
    rw [due] at acted
    exact Driver.play_concat played acted (Driver.settle_of_due rfl)
  case input =>
    rintro s event ⟨batches, before, actions, played, acted⟩ running
    obtain ⟨last, effects, log, run, received⟩ := receive_of_running running event
    refine ⟨batches, before, actions ++ (s.view.actionsFor s.app event).1, played, ?_⟩
    rw [List.foldlM_append, acted, received]
    exact Driver.acts_of_run run (s.view.revalidate_not_mem_actionsFor s.app event) _

/-- **The loop as a driver**: it dispatches batches of actions with the
validations that their effects ask for, and knows when one is due as a
driver does. -/
theorem driven_play (app : App) (view : View) (turns : List Turn) :
    DrivenFrom app ((start app view).play turns) :=
  (kept_driven app).play ⟨[], .start app, [], rfl, rfl⟩ fun _ _ => ⟨trivial, trivial⟩

/-! ## §3 Since the last frame -/

/-- The state is that of a frame after some inputs, except that another
frame may be called for. -/
def IsSinceFrame (s : Interaction) : Prop :=
  ∃ (before : Interaction) (size : Nat × Nat) (events : List InputEvent),
    before.redraw = true ∧ (before.draw size).status = .running ∧
      { s with redraw := false } = (before.draw size).receiveAll events

/-- A frame that is due is drawn or fails. -/
theorem failed_or_isSinceFrame_draw {s : Interaction} (running : s.status = .running)
    (due : s.redraw = true) (size : Nat × Nat) :
    (s.draw size).HasFailed ∨ (s.draw size).IsSinceFrame := by
  rcases draw_of_due running due size with ⟨view, -, next⟩ | ⟨fault, next⟩
  · refine .inr ⟨s, size, [], due, by simp [next, running], ?_⟩
    rw [next]
    rfl
  · exact .inl ⟨fault, by rw [next]⟩

theorem kept_sinceFrame : Kept (fun _ => True) fun s => s.HasFailed ∨ s.IsSinceFrame where
  draw := by
    rintro s size h -
    rcases s.draw_cases size with ⟨-, same⟩ | ⟨running, due, -⟩
    · rwa [same]
    · exact failed_or_isSinceFrame_draw running due size
  settle := by
    rintro s size h -
    rcases s.settle_cases size with ⟨-, same⟩ | ⟨running, -, next⟩
    · rwa [same]
    · rw [next]
      exact failed_or_isSinceFrame_draw (s := s.validated) running rfl size
  receive := by
    rintro s event (failed | ⟨before, size, events, due, drew, since⟩)
    · rw [receive_of_not_running failed.not_running]
      exact .inl failed
    · refine .inr ⟨before, size, events ++ [event], due, drew, ?_⟩
      rw [← receive_mark, since, receiveAll, receiveAll, List.foldl_append]
      rfl
  mark := fun _ h => h

/-- **Batches between frames**: after one turn or more, unless a frame has
failed, the state is that of a frame after some inputs without another
frame between them. So what `Proofs.Interaction.Press` says of a press
after any such inputs it says of every press of a run. -/
theorem isSinceFrame_play (app : App) (view : View) {turns : List Turn} (nonempty : turns ≠ []) :
    let s := (start app view).play turns
    s.HasFailed ∨ s.IsSinceFrame := by
  refine kept_sinceFrame.play_of_draw ?_ nonempty fun _ _ => ⟨trivial, trivial⟩
  exact fun _ => failed_or_isSinceFrame_draw rfl rfl _

/-! ## §4 Where the loop waits -/

/-- The view is what a frame recorded of the application as it is. -/
def IsShown (s : Interaction) : Prop :=
  ∃ (earlier : View) (size : Nat × Nat), earlier.refresh s.app size.1 size.2 = .ok s.view

/-- When a frame has not failed, there is none to draw, and the view is
that of the latest state if it was or if there was a frame to draw. -/
theorem draw_of_goes_on {s : Interaction} {size : Nat × Nat}
    (running : (s.draw size).status = .running) :
    s.status = .running ∧ (s.draw size).redraw = false ∧
      (s.draw size).validationDue = s.validationDue ∧
      (s.redraw = true ∨ s.IsShown → (s.draw size).IsShown) := by
  rcases s.draw_cases size with
    ⟨none, same⟩ | ⟨before, due, ⟨view, drawn, next⟩ | ⟨fault, next⟩⟩
  · rw [same] at running ⊢
    have shown : s.redraw = false := none.resolve_left (not_not_intro running)
    exact ⟨running, shown, rfl, fun h => h.resolve_left (by simp [shown])⟩
  · rw [next]
    exact ⟨before, rfl, rfl, fun _ => ⟨s.view, size, drawn⟩⟩
  · simp [next] at running

/-- The same for the validation and its frame; and no validation is asked
for afterwards. -/
theorem settle_of_goes_on {s : Interaction} {size : Nat × Nat}
    (running : (s.settle size).status = .running) :
    s.status = .running ∧ (s.settle size).validationDue = false ∧
      (s.redraw = false → (s.settle size).redraw = false) ∧
      (s.IsShown → (s.settle size).IsShown) := by
  rcases s.settle_cases size with ⟨none, same⟩ | ⟨before, -, next⟩
  · rw [same] at running ⊢
    exact ⟨running, none.resolve_left (not_not_intro running), id, id⟩
  · rw [next] at running ⊢
    obtain ⟨-, redrawn, quiet, current⟩ := draw_of_goes_on running
    exact ⟨before, quiet, fun _ => redrawn, fun _ => current (.inl rfl)⟩

theorem waiting_of_goes_on {s : Interaction} {t : Turn}
    (running : (s.waiting t).status = .running) :
    s.status = .running ∧ (s.waiting t).redraw = false ∧ (s.waiting t).validationDue = false ∧
      (s.redraw = true ∨ s.IsShown → (s.waiting t).IsShown) := by
  obtain ⟨drew, quiet, redrawn, kept⟩ := settle_of_goes_on running
  obtain ⟨before, drawn, -, current⟩ := draw_of_goes_on drew
  exact ⟨before, redrawn drawn, quiet, fun h => kept (current h)⟩

theorem Kept.waiting {sizes : Nat × Nat → Prop} {P : Interaction → Prop}
    (kept : Kept sizes P) {s : Interaction} (h : P s) {t : Turn}
    (allowed : sizes t.size ∧ sizes t.validatedSize) : P (s.waiting t) :=
  kept.settle (kept.draw h allowed.1) allowed.2

/-- **The verdict is current where the loop waits**: after any turns from
a reachable application in which nothing was due, whenever the loop waits
for an input, nothing is due and the verdict is the one on the sequence. -/
theorem current_while_waiting {app : App} (reachable : app.Reachable)
    (settled : app.chips.schedule.pending = false) (view : View) (turns : List Turn) (t : Turn) :
    let waiting := ((start app view).play turns).waiting t
    waiting.status = .running →
      waiting.app.chips.schedule.pending = false ∧
        waiting.app.chips.verdict = Expression.validate waiting.app.chips.labels := by
  intro waiting running
  obtain ⟨batches, before, actions, played, acted⟩ : DrivenFrom app waiting :=
    (kept_driven app).waiting (driven_play app view turns) ⟨trivial, trivial⟩
  obtain ⟨-, -, quiet, -⟩ := waiting_of_goes_on running
  obtain ⟨_, played', informed⟩ := (Driver.informed_start app).exists_play batches
  cases played.symm.trans played'
  obtain ⟨_, acted', informed⟩ := informed.exists_acts actions
  cases acted.symm.trans acted'
  have none : waiting.app.chips.schedule.pending = false := by
    refine Bool.eq_false_iff.mpr fun pending => ?_
    have due : waiting.validationDue = true := informed.due_of_pending settled pending
    simp [waiting, quiet] at due
  refine ⟨none, ?_⟩
  rcases (informed.reachable reachable).chips.isCurrent with pending | current
  · exact absurd (none.symm.trans pending) Bool.false_ne_true
  · exact current

/-- After a turn there is a frame to draw, or the last one shows the
application as it is. -/
theorem turn_of_goes_on {s : Interaction} {t : Turn} (prompt : t.first = none → t.rest = [])
    (h : s.status = .running → s.redraw = true ∨ s.IsShown)
    (running : (s.turn t).status = .running) :
    (s.turn t).redraw = true ∨ (s.turn t).IsShown := by
  have waited : (s.waiting t).status = .running := by
    by_contra ended
    rw [turn, take, receiveAll_of_not_running (by exact ended)] at running
    exact ended running
  cases first : t.first with
  | none =>
    obtain ⟨before, -, -, current⟩ := waiting_of_goes_on waited
    refine .inr ?_
    rw [turn, take, first, prompt first]
    exact current (h before)
  | some event =>
    refine .inl ?_
    rw [turn, take, first, redraw_receiveAll]
    exact Bool.or_true _

theorem play_of_goes_on {s : Interaction} {turns : List Turn}
    (prompt : ∀ t ∈ turns, t.first = none → t.rest = [])
    (h : s.status = .running → s.redraw = true ∨ s.IsShown)
    (running : (s.play turns).status = .running) :
    (s.play turns).redraw = true ∨ (s.play turns).IsShown := by
  induction turns generalizing s with
  | nil => exact h running
  | cons t turns ih =>
    obtain ⟨first, later⟩ := List.forall_mem_cons.mp prompt
    exact ih later (turn_of_goes_on first h) running

/-- **The screen is current where the loop waits**: if nothing is taken
along after a wait that came to nothing, then whenever the loop waits for
an input the last frame is one of the application as it is. -/
theorem shown_while_waiting (app : App) (view : View) {turns : List Turn}
    (prompt : ∀ t ∈ turns, t.first = none → t.rest = []) (t : Turn)
    (running : (((start app view).play turns).waiting t).status = .running) :
    (((start app view).play turns).waiting t).IsShown := by
  obtain ⟨before, -, -, current⟩ := waiting_of_goes_on running
  exact current (play_of_goes_on prompt (fun _ => .inl rfl) before)

end Interaction

/-! ## §5 The program on a terminal -/

namespace Launch

/-- What the program reaches on a terminal are states of its settings. -/
theorem exists_reaches_interaction (setup : Setup) (size : Nat × Nat)
    (events : List TerminalEvent) :
    ∃ caused, setup.Reaches (interaction setup size events).app
      (interaction setup size events).view caused :=
  Interaction.exists_reaches_play setup _

/-- When no more events come and the program still runs, it waits. -/
theorem interaction_eq_waiting (setup : Setup) (size : Nat × Nat) (events : List TerminalEvent) :
    interaction setup size events =
      ((Interaction.start setup.app (.start setup.cellWidth setup.cellHeight)).play
        (events.map fun event => turn size (some event))).waiting (turn size none) := by
  simp [interaction, Interaction.play, Interaction.turn, Interaction.take, Interaction.receiveAll,
    turn]

/-- **The program answers**: when all events have come and the program
still runs, no validation is due, the verdict is the one on the sequence,
and the last frame shows the application as it is. -/
theorem answers_all_events (setup : Setup) (size : Nat × Nat) (events : List TerminalEvent)
    (running : (interaction setup size events).status = .running) :
    let s := interaction setup size events
    s.app.chips.schedule.pending = false ∧
      s.app.chips.verdict = Expression.validate s.app.chips.labels ∧ s.IsShown := by
  intro s
  have waits := interaction_eq_waiting setup size events
  rw [waits] at running
  have reachable : setup.app.Reachable := .start _ (Collection.reachable_ofInitial _ _)
  obtain ⟨quiet, current⟩ :=
    Interaction.current_while_waiting reachable rfl _ _ (turn size none) running
  have shown := Interaction.shown_while_waiting _ _ (by simp [turn]) (turn size none) running
  rw [← waits] at quiet current shown
  exact ⟨quiet, current, shown⟩

end Launch

end FilterChips

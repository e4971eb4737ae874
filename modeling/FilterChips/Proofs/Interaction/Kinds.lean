/-
FilterChips.Proofs.Interaction.Kinds — the kind of a chip agrees with the
class of its label.

Ownership goes by the kind of a chip, validation by its label, and
nothing in `Chip` ties the two together. What ties them is that every chip
of the program is made from its label (`Chip.IsGenuine`):

* the conditions on offer and the chips of the settings are so made, and
  no operation makes up another one (`Proofs.Collection.Provenance`);
* the palette of a frame shows what is on offer, and a press adds a chip
  that the palette showed, perhaps some time ago (`View.Shows`,
  `View.shows_of_addChip`). So the shown chips and the actions that
  were caused but are still to be carried out are part of the invariant
  (`Setup.Genuine`).
-/
import FilterChips.Proofs.App.Effects
import FilterChips.Proofs.Collection.Provenance
import FilterChips.Proofs.View.Places
import FilterChips.Input.Response
import FilterChips.Settings.Setup

namespace FilterChips

/-! ## §1 Chips made from their labels -/

namespace Chip

/-- The chip is the one that its label stands for. -/
def IsGenuine (chip : Chip) : Prop :=
  chip = .ofLabel chip.label

theorem isGenuine_ofLabel (label : String) : (ofLabel label).IsGenuine := by
  rw [IsGenuine, label_ofLabel]

theorem isGenuine_condition (c : Condition) : (condition c).IsGenuine :=
  (ofLabel_of_some (Condition.ofLabel?_label c)).symm

theorem IsGenuine.isIdentifier_iff {chip : Chip} (h : chip.IsGenuine) :
    chip.isIdentifier = true ↔ TokenClass.ofLabel chip.label = .identifier := by
  have agree := isIdentifier_ofLabel_iff chip.label
  rwa [← h] at agree

end Chip

/-! ## §2 The chips of the application and of the palette -/

/-- An action brings in no chip but its own. -/
theorem App.Step.holds_before {app next : App} {action : Action} {effect : Effect}
    (step : Step app action next effect) {held : Chip} (h : next.chips.Holds held) :
    app.chips.Holds held ∨ action = .addChip held := by
  rcases step.chips_cases with ⟨-, -, edit, -, chips, own⟩ | ⟨-, -, chips, -⟩ | ⟨-, -, chips, -⟩
  · rw [chips] at h
    exact h.of_perform.imp_right (own held)
  · rw [chips] at h
    exact .inl h.of_revalidate
  · rw [chips] at h
    exact .inl h

namespace View

/-- The palette of the last frame showed the chip. -/
def Shows (view : View) (chip : Chip) : Prop :=
  ∃ hit ∈ view.palette.hits, hit.chip = chip

variable {view recorded : View} {app : App} {chip : Chip}

/-- What a frame shows is on offer. -/
theorem Shows.mem_offered {width height : Nat} {screen : Buffer} (h : recorded.Shows chip)
    (drawn : view.drawFrame app width height = .ok (recorded, screen)) :
    chip ∈ app.chips.pool.offered view.palette.query := by
  obtain ⟨layout, hlayout, rfl, -⟩ := drawFrame_eq_ok_iff.mp drawn
  obtain ⟨rows, -, -, -, hhits⟩ := Frame.layout_eq_ok_iff.mp hlayout
  obtain ⟨hit, hhit, rfl⟩ := h
  exact ((Palette.hits_hitsIn hhits).2 hit hhit).2

/-- No input changes what was shown. -/
theorem hits_actionsFor (view : View) (app : App) (event : InputEvent) :
    (view.actionsFor app event).2.palette.hits = view.palette.hits := by
  obtain ⟨query, same⟩ := view.exists_query_actionsFor app event
  rw [same]

theorem shows_of_chipAt? {column row : Nat} (h : view.palette.chipAt? column row = some chip) :
    view.Shows chip := by
  obtain ⟨hit, found, same⟩ := Option.map_eq_some_iff.mp h
  exact ⟨hit, List.mem_of_find?_eq_some found, same⟩

/-- An input adds no chip but one that was shown. -/
theorem shows_of_addChip {event : InputEvent}
    (h : .addChip chip ∈ (view.actionsFor app event).1) : view.Shows chip := by
  cases event with
  | mouseDown column row =>
    simp only [actionsFor, pressActions] at h
    split at h
    · cases h
    · split at h
      · simp at h
      · obtain ⟨picked, found, same⟩ := Option.map_eq_some_iff.mp (Option.mem_toList.mp h)
        cases same
        exact shows_of_chipAt? found
  | escape =>
    simp only [actionsFor] at h
    split at h
    · simp at h
    · split at h <;> simp at h
  | trashLast =>
    simp only [actionsFor] at h
    split at h <;> simp at h
  | mouseDrag column row =>
    simp only [actionsFor, moveActions] at h
    split at h
    · cases h
    · split at h <;> simp at h
  | mouseUp column row =>
    simp only [actionsFor] at h
    split at h <;> simp at h
  | forceQuit | clearAll | inputChar | backspace | resize => simp [actionsFor] at h

end View

/-! ## §3 The running program -/

namespace Setup

/-- What the program reaches from some settings, by frames of any sizes,
inputs, and actions: the application, the view, and the actions that the
inputs so far have caused. An input tells what its actions are and leaves
them to be carried out, at once or after other inputs and frames, in any
order; a validation may be carried out at any time. -/
inductive Reaches (setup : Setup) : App → View → List Action → Prop where
  | start : Reaches setup setup.app (.start setup.cellWidth setup.cellHeight) []
  | frame {app : App} {view recorded : View} {caused : List Action} {width height : Nat}
      {screen : Buffer} :
      Reaches setup app view caused →
      view.drawFrame app width height = .ok (recorded, screen) →
      Reaches setup app recorded caused
  | input {app : App} {view : View} {caused : List Action} (event : InputEvent) :
      Reaches setup app view caused →
      Reaches setup app (view.actionsFor app event).2 (caused ++ (view.actionsFor app event).1)
  | action {app next : App} {view : View} {caused : List Action} {action : Action}
      {effect : Effect} :
      Reaches setup app view caused → action ∈ caused ∨ action = .revalidate →
      app.update action = .ok (next, effect) → Reaches setup next view caused

variable {setup : Setup} {app last : App} {view : View} {caused actions : List Action}
  {effects : List Effect}

theorem Reaches.run (reaches : setup.Reaches app view caused) (known : actions ⊆ caused)
    (h : app.run actions = .ok (last, effects)) : setup.Reaches last view caused := by
  induction actions generalizing app effects with
  | nil =>
    cases h
    exact reaches
  | cons action actions ih =>
    obtain ⟨next, effect, rest, step, tail, -⟩ := App.run_cons_eq_ok_iff.mp h
    obtain ⟨first, later⟩ := List.cons_subset.mp known
    exact ih (reaches.action (.inl first) step.update_eq) later tail

/-- So an input may be answered by all that it causes. -/
theorem Reaches.answer (reaches : setup.Reaches app view caused) (event : InputEvent)
    (h : app.run (view.actionsFor app event).1 = .ok (last, effects)) :
    setup.Reaches last (view.actionsFor app event).2
      (caused ++ (view.actionsFor app event).1) :=
  (reaches.input event).run (List.subset_append_right ..) h

/-- All chips are made from their labels: those held, those shown, and
those that are still to be added. -/
structure Genuine (app : App) (view : View) (caused : List Action) : Prop where
  held : ∀ chip, app.chips.Holds chip → chip.IsGenuine
  shown : ∀ chip, view.Shows chip → chip.IsGenuine
  added : ∀ chip, .addChip chip ∈ caused → chip.IsGenuine

theorem genuine_start (setup : Setup) :
    Genuine setup.app (.start setup.cellWidth setup.cellHeight) [] where
  held := by
    intro chip h
    rcases Collection.Holds.of_ofInitial h with inPool | ⟨label, -, rfl⟩
    · obtain ⟨label, -, rfl⟩ := IdentifierPool.mem_of_mem_ofLabels inPool
      exact Chip.isGenuine_ofLabel label
    · exact Chip.isGenuine_ofLabel label
  shown := by
    rintro chip ⟨hit, none, -⟩
    cases none
  added := nofun

theorem Genuine.frame {recorded : View} {width height : Nat} {screen : Buffer}
    (h : Genuine app view caused)
    (drawn : view.drawFrame app width height = .ok (recorded, screen)) :
    Genuine app recorded caused := by
  refine ⟨h.held, ?_, h.added⟩
  intro chip shown
  rcases IdentifierPool.mem_of_mem_offered (shown.mem_offered drawn) with ⟨c, rfl⟩ | inPool
  · exact Chip.isGenuine_condition c
  · exact h.held chip (.inr inPool)

theorem Genuine.input (h : Genuine app view caused) (event : InputEvent) :
    Genuine app (view.actionsFor app event).2 (caused ++ (view.actionsFor app event).1) := by
  refine ⟨h.held, ?_, ?_⟩
  · intro chip shown
    unfold View.Shows at shown
    rw [View.hits_actionsFor] at shown
    exact h.shown chip shown
  · intro chip hc
    rcases List.mem_append.mp hc with earlier | now
    · exact h.added chip earlier
    · exact h.shown chip (View.shows_of_addChip now)

theorem Genuine.action {next : App} {action : Action} {effect : Effect}
    (h : Genuine app view caused) (known : action ∈ caused ∨ action = .revalidate)
    (step : App.Step app action next effect) : Genuine next view caused := by
  refine ⟨?_, h.shown, h.added⟩
  intro chip hc
  rcases step.holds_before hc with before | rfl
  · exact h.held chip before
  · exact h.added chip (known.resolve_right nofun)

theorem Reaches.genuine (reaches : setup.Reaches app view caused) : Genuine app view caused := by
  induction reaches with
  | start => exact genuine_start setup
  | frame _ drawn ih => exact ih.frame drawn
  | input event _ ih => exact ih.input event
  | action _ known updated ih => exact ih.action known (App.update_eq_ok_iff.mp updated)

/-- **Kind and class agree**: whatever the settings are and whatever has
happened since, every chip in the sequence, in the pool and in the palette
as it was last shown is the one that its label stands for. So it is an
identifier by its kind exactly when the validator takes its label for
one. -/
theorem kind_agrees_with_class (reaches : setup.Reaches app view caused) (chip : Chip)
    (there : chip ∈ app.chips.sequence ∨ chip ∈ app.chips.pool.chips ∨
      ∃ hit ∈ view.palette.hits, hit.chip = chip) :
    chip = .ofLabel chip.label ∧
      (chip.isIdentifier = true ↔ TokenClass.ofLabel chip.label = .identifier) := by
  have genuine : chip.IsGenuine := by
    rcases there with placed | inPool | shown
    · exact reaches.genuine.held chip (.inl placed)
    · exact reaches.genuine.held chip (.inr inPool)
    · exact reaches.genuine.shown chip shown
  exact ⟨genuine, genuine.isIdentifier_iff⟩

/-- A condition among the identifiers of the settings, and a press on the
only identifier on offer: the palette still shows it when it has left the
pool. -/
theorem kind_agrees_after_press :
    let setup : Setup := ⟨.standard, 16, 32, ["sushi", "AND"], ["pizza", "AND"]⟩
    ∃ app view caused, setup.Reaches app view caused ∧
      app.chips.sequence = [.identifier "pizza", .condition .and, .identifier "sushi"] ∧
      app.chips.pool.chips = [] ∧
      (∃ hit ∈ view.palette.hits, hit.chip = .identifier "sushi") ∧
      Chip.identifier "sushi" = .ofLabel "sushi" ∧
      ((Chip.identifier "sushi").isIdentifier = true ↔
        TokenClass.ofLabel "sushi" = .identifier) := by
  intro setup
  let start := View.start setup.cellWidth setup.cellHeight
  let layout := Frame.Layout.ofTwoChips
  have laid : Frame.layout setup.app start.palette.query 40 14 = .ok layout := by decide +kernel
  have drawn := View.drawFrame_eq_ok_iff.mpr ⟨layout, laid, rfl, rfl⟩
  let view := layout.record start
  let sushi := Chip.identifier "sushi"
  have added : (setup.app.chips.add sushi).1 = true := by decide +kernel
  let pressed : App :=
    { setup.app with chips := (setup.app.chips.add sushi).2, status := "Added " ++ sushi.label }
  have step : App.Step setup.app (.addChip sushi) pressed .scheduleValidation :=
    .added (Prod.ext added rfl)
  have press : (view.actionsFor setup.app (.mouseDown 28 7)).1 = [.addChip sushi] := by
    decide +kernel
  have run : setup.app.run (view.actionsFor setup.app (.mouseDown 28 7)).1 =
      .ok (pressed, [.scheduleValidation]) := by
    rw [press]
    exact App.run_cons step rfl
  have reaches : setup.Reaches pressed view _ :=
    (Reaches.start.frame drawn).answer (.mouseDown 28 7) run
  have shown : ∃ hit ∈ view.palette.hits, hit.chip = sushi := by decide
  obtain ⟨made, agrees⟩ := kind_agrees_with_class reaches sushi (.inr (.inr shown))
  exact ⟨pressed, view, _, reaches, by decide +kernel, by decide +kernel, shown, made, agrees⟩

end Setup

end FilterChips

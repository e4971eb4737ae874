/-
FilterChips.Proofs.Interaction.Press — the chip that a press grabs and the
chip that the user saw there.

A press is looked up among the cells of the last frame, but what it finds
is an index, and the drag takes the chip that has this index by then. No
frame is drawn while events are waiting. So the press is right just when
the chip that the frame drew there still has its index (`StillSeen`).

Moves, hovers, additions and giving a drag up leave the chips of the frame
the first of the sequence, and so do a removal, a clearing and a drop that
come to nothing as things stand (`App.keepsPlaces`). What each event does
is judged in the state that the events before it have left, and after a
batch of events that all keep the places the chips of the frame are still
the first (`sequence_prefix_receiveAll`).

A removal before the press leaves the recorded cells where they were and
moves the chips. §4 ends with such a batch: the user presses on one chip
and drags another.
-/
import FilterChips.Proofs.App.Transaction
import FilterChips.Proofs.Interaction.Steps
import FilterChips.Proofs.View.Recording

namespace FilterChips

/-! ## §1 What the user saw -/

namespace Interaction

/-- The chips that a frame drew on the board, each with its cell. -/
def drawn (frame : Interaction) : List (Chip × Rect) :=
  frame.app.displaySequence.zip frame.view.board.cells

/-- The chip that a frame drew at a position. -/
def chipUnder? (frame : Interaction) (column row : Nat) : Option Chip :=
  (frame.drawn.find? fun entry => entry.2.contains column row).map Prod.fst

theorem chipUnder?_eq (frame : Interaction) (column row : Nat) :
    frame.chipUnder? column row =
      (frame.view.board.chipAt? column row).bind fun index => frame.app.displaySequence[index]? :=
  find?_zip_eq_findIdx? _ _ fun cell => cell.contains column row

/-- The chip that a frame drew at a position, if it drew one there, still
has its index. -/
def StillSeen (frame now : Interaction) (column row : Nat) : Prop :=
  ∀ index, frame.view.board.chipAt? column row = some index →
    now.app.chips.sequence[index]? = frame.app.displaySequence[index]?

theorem length_cells_draw {s : Interaction} (due : s.redraw = true) {size : Nat × Nat}
    (running : (s.draw size).status = .running) :
    (s.draw size).view.board.cells.length ≤ (s.draw size).app.displaySequence.length := by
  rcases s.draw_cases size with
    ⟨none, same⟩ | ⟨-, -, ⟨view, drawn, next⟩ | ⟨fault, next⟩⟩
  · rw [same] at running
    simp [running, due] at none
  · rw [next]
    exact View.length_cells_le_of_refresh drawn
  · simp [next] at running

/-- A cell is recorded for a chip that was drawn in it. -/
theorem lt_of_chipAt? {frame : Interaction}
    (recorded : frame.view.board.cells.length ≤ frame.app.displaySequence.length)
    {column row index : Nat} (hit : frame.view.board.chipAt? column row = some index) :
    index < frame.app.displaySequence.length := by
  obtain ⟨inCells, -⟩ := List.findIdx?_eq_some_iff_getElem.mp hit
  exact Nat.lt_of_lt_of_le inCells recorded

theorem stillSeen_iff {frame now : Interaction} {column row index : Nat}
    (hit : frame.view.board.chipAt? column row = some index) :
    StillSeen frame now column row ↔
      now.app.chips.sequence[index]? = frame.app.displaySequence[index]? := by
  simp [StillSeen, hit]

/-- While the chips of the frame are the first ones, they are all where
they were seen. -/
theorem stillSeen_of_prefix {frame now : Interaction}
    (recorded : frame.view.board.cells.length ≤ frame.app.displaySequence.length)
    (first : frame.app.displaySequence <+: now.app.chips.sequence) (column row : Nat) :
    StillSeen frame now column row := by
  intro index hit
  obtain ⟨later, same⟩ := first
  rw [← same]
  exact List.getElem?_append_left (lt_of_chipAt? recorded hit)

end Interaction

/-! ## §2 Events that leave the chips in their places -/

namespace App

/-- Whether an action, as things stand, removes, clears and drops nothing.
During a drag the first two are refused; a drop may find no drag, or one
whose chip is where it was taken. -/
def keepsPlaces (app : App) : Action → Bool
  | .trashChip index => app.drag.isDragging || app.chips.sequence.length ≤ index
  | .clearAll => app.drag.isDragging || app.chips.sequence.isEmpty
  | .endDrag onTarget => (app.drag.release onTarget).1 = .unchanged
  | _ => true

/-- Then every chip of the sequence keeps its index. -/
theorem Step.sequence_prefix {app next : App} {action : Action} {effect : Effect}
    (step : Step app action next effect) (keeps : app.keepsPlaces action = true) :
    app.chips.sequence <+: next.chips.sequence := by
  cases step with
  | added h =>
    rw [Collection.sequence_of_add h]
    exact List.prefix_append ..
  | @trashed index chip chips idle h =>
    have beyond : app.chips.sequence.length ≤ index := by
      simpa [keepsPlaces, Drag.Engine.isDragging, idle] using keeps
    rw [Collection.trash_of_le app.chips beyond] at h
    cases h
  | cleared idle =>
    have empty : app.chips.sequence = [] := by
      simpa [keepsPlaces, Drag.Engine.isDragging, idle] using keeps
    rw [empty]
    exact List.nil_prefix
  | @dropped onTarget _ =>
    have unchanged : (app.drag.release onTarget).1 = .unchanged := by
      simpa [keepsPlaces] using keeps
    have applied : (app.drop onTarget).chips = app.chips.apply (app.drag.release onTarget).1 := rfl
    rw [applied, unchanged]
    exact List.prefix_rfl
  | cancelled h =>
    cases hs : app.drag.session with
    | none => simp [Drag.Engine.isDragging, hs] at h
    | some session =>
      exact (cancel_keeps_chips hs).1 ▸ List.prefix_rfl
  | revalidated => simp
  | blocked | refused | missed | begun | notBegun | moved | hovered | notDropped | notCancelled
  | quit => exact List.prefix_rfl

/-- Reports of the pointer keep every chip. -/
theorem sequence_prefix_of_reports {app last : App} {actions : List Action}
    {effects : List Effect} (run : app.run actions = .ok (last, effects))
    (reports : ∀ action ∈ actions, (∃ onTarget, action = .deleteTargetHover onTarget) ∨
      ∃ pointer, action = .pointerMoved pointer) :
    app.chips.sequence <+: last.chips.sequence := by
  induction actions generalizing app effects with
  | nil =>
    cases run
    exact List.prefix_rfl
  | cons action actions ih =>
    obtain ⟨next, effect, rest, step, tail, -⟩ := run_cons_eq_ok_iff.mp run
    obtain ⟨one, more⟩ := List.forall_mem_cons.mp reports
    have first : app.chips.sequence <+: next.chips.sequence := by
      refine step.sequence_prefix ?_
      rcases one with ⟨onTarget, rfl⟩ | ⟨pointer, rfl⟩ <;> rfl
    exact first.trans (ih tail more)

end App

/-- No event changes the recorded board. -/
theorem View.board_actionsFor (view : View) (app : App) (event : InputEvent) :
    (view.actionsFor app event).2.board = view.board := by
  obtain ⟨query, same⟩ := view.exists_query_actionsFor app event
  rw [same]

namespace Interaction

/-- Whether an event, as things stand, causes only such actions. -/
def keepsPlaces (s : Interaction) (event : InputEvent) : Bool :=
  (s.view.actionsFor s.app event).1.all s.app.keepsPlaces

/-- Whether all events do, each in the state that those before it leave. -/
def allKeepPlaces (s : Interaction) : List InputEvent → Bool
  | [] => true
  | event :: events => s.keepsPlaces event && (s.receive event).allKeepPlaces events

theorem board_receive (s : Interaction) (event : InputEvent) :
    (s.receive event).view.board = s.view.board := by
  by_cases running : s.status = .running
  · obtain ⟨last, effects, log, -, received⟩ := receive_of_running running event
    rw [received]
    exact View.board_actionsFor s.view s.app event
  · rw [receive_of_not_running running]

/-- Whatever a batch does, the board is the one of the last frame. -/
theorem board_receiveAll (s : Interaction) (events : List InputEvent) :
    (s.receiveAll events).view.board = s.view.board := by
  induction events generalizing s with
  | nil => rfl
  | cons event events ih => exact (ih _).trans (s.board_receive event)

theorem sequence_prefix_receive {s : Interaction} {event : InputEvent}
    (keeps : s.keepsPlaces event = true) :
    s.app.chips.sequence <+: (s.receive event).app.chips.sequence := by
  by_cases running : s.status = .running
  · obtain ⟨last, effects, log, run, received⟩ := receive_of_running running event
    rw [received]
    rcases s.view.actionsFor_cases s.app event with ⟨few, -⟩ | reports
    · rw [keepsPlaces] at keeps
      generalize (s.view.actionsFor s.app event).1 = actions at few keeps run
      cases actions with
      | nil =>
        cases run
        exact List.prefix_rfl
      | cons action others =>
        obtain rfl : others = [] := by simpa using few
        obtain ⟨next, effect, rest, step, done, -⟩ := App.run_cons_eq_ok_iff.mp run
        cases done
        exact step.sequence_prefix (by simpa using keeps)
    · exact App.sequence_prefix_of_reports run reports
  · simp only [receive_of_not_running running, List.prefix_rfl]

theorem sequence_prefix_receiveAll {s : Interaction} {events : List InputEvent}
    (keeps : s.allKeepPlaces events = true) :
    s.app.chips.sequence <+: (s.receiveAll events).app.chips.sequence := by
  induction events generalizing s with
  | nil => exact List.prefix_rfl
  | cons event events ih =>
    obtain ⟨first, later⟩ := Bool.and_eq_true_iff.mp keeps
    exact (sequence_prefix_receive first).trans (ih later)

end Interaction

/-! ## §3 What a press grabs -/

/-- The chip that is being dragged. -/
def App.grabbed? (app : App) : Option Chip :=
  app.drag.session.bind fun session => app.chips.sequence[session.index]?

/-- An addition leaves the drag alone. -/
theorem App.Step.drag_addChip {app next : App} {chip : Chip} {effect : Effect}
    (step : Step app (.addChip chip) next effect) : next.drag = app.drag := by
  cases step <;> rfl

namespace Interaction

/-- A press grabs the chip that has the index of the cell under it, if
there is one; what it does on the palette begins no drag. -/
theorem grabbed?_receive_mouseDown {s : Interaction} (running : s.status = .running)
    (idle : s.app.drag.session = none) (column row : Nat) :
    let after := s.receive (.mouseDown column row)
    let hit := (s.view.board.chipAt? column row).bind fun index => s.app.chips.sequence[index]?
    after.app.grabbed? = hit ∧ after.app.drag.isDragging = hit.isSome := by
  intro after hit
  have notDragging := (Drag.Engine.isDragging_eq_false_iff s.app.drag).mpr idle
  have pressed : after = (s.view.pressActions s.app column row).foldl perform s := by
    simp only [after, receive, if_pos running]
    rfl
  cases hcell : s.view.board.chipAt? column row with
  | some index =>
    have begins : after = s.perform
        (.beginDrag index (s.view.geometry.point column row) s.view.geometry.chipRects) := by
      rw [pressed]
      simp [View.pressActions, notDragging, hcell]
    have found : hit = s.app.chips.sequence[index]? := by simp [hit, hcell]
    rw [begins, found]
    by_cases present : index < s.app.chips.sequence.length
    · rw [perform_of_running running (.begun idle present)]
      simp [App.grabbed?, Drag.Engine.isDragging, present]
    · rw [perform_of_running running (.notBegun (.inr (Nat.not_lt.mp present)))]
      simp [App.grabbed?, idle, notDragging, Nat.not_lt.mp present]
  | none =>
    have found : hit = none := by simp [hit, hcell]
    have stillIdle : after.app.drag.session = none := by
      rw [pressed]
      simp only [View.pressActions, notDragging, hcell]
      cases hpick : s.view.palette.chipAt? column row with
      | none => exact idle
      | some chip =>
        obtain ⟨next, effect, step⟩ := App.exists_step s.app (.addChip chip)
        simp [perform_of_running running step, step.drag_addChip, idle]
    rw [found]
    exact ⟨by simp [App.grabbed?, stillIdle],
      (Drag.Engine.isDragging_eq_false_iff after.app.drag).mpr stillIdle⟩

/-! ## §4 The press and the frame -/

/-- While the board is the one that a frame recorded, a press does what the
frame showed at its position just when the chip there is still seen. -/
theorem stillSeen_iff_press {frame before : Interaction} (running : before.status = .running)
    (idle : before.app.drag.session = none) (same : before.view.board = frame.view.board)
    (recorded : frame.view.board.cells.length ≤ frame.app.displaySequence.length)
    (column row : Nat) :
    let after := before.receive (.mouseDown column row)
    StillSeen frame before column row ↔
      (after.app.drag.isDragging = true ↔ (frame.chipUnder? column row).isSome = true) ∧
      (after.app.drag.isDragging = true →
        after.app.grabbed? = frame.chipUnder? column row) := by
  intro after
  obtain ⟨grabs, begins⟩ := grabbed?_receive_mouseDown running idle column row
  rw [same] at grabs begins
  rw [chipUnder?_eq]
  cases hit : frame.view.board.chipAt? column row with
  | none =>
    have nothing : after.app.drag.isDragging = false := by rw [begins, hit]; rfl
    simp [StillSeen, hit, nothing]
  | some index =>
    have drawn := List.getElem?_eq_getElem (lt_of_chipAt? recorded hit)
    simp only [hit, Option.bind_some] at grabs begins ⊢
    rw [stillSeen_iff hit, drawn]
    constructor
    · intro found
      simp [after, begins, grabs, found]
    · rintro ⟨begun, right⟩
      rw [← grabs]
      exact right (begun.mpr rfl)

/-- **A press grabs the chip that was seen**: let a frame be drawn, some
events be taken, and then a press that finds no drag under way. If the
frame showed the sequence itself, and each event, as things stand when it
comes, removes, clears and drops nothing, then the chip that the frame drew
under the press still has its index, unless the end has come before. And
the press is right just in that case: it begins a drag when the frame drew
a chip there, and grabs that chip. -/
theorem press_grabs_seen_chip {s : Interaction} (due : s.redraw = true) (size : Nat × Nat)
    (events : List InputEvent) (column row : Nat) :
    let frame := s.draw size
    let before := frame.receiveAll events
    let after := before.receive (.mouseDown column row)
    (frame.app.displaySequence = frame.app.chips.sequence → frame.allKeepPlaces events = true →
      before.status = .running → StillSeen frame before column row) ∧
    (before.app.drag.isDragging = false →
      ((before.status = .running → StillSeen frame before column row) ↔
        (after.app.drag.isDragging = true ↔
          before.status = .running ∧ (frame.chipUnder? column row).isSome = true) ∧
        (after.app.drag.isDragging = true →
          after.app.grabbed? = frame.chipUnder? column row))) := by
  intro frame before after
  by_cases running : before.status = .running
  · have drew : frame.status = .running := by
      by_contra ended
      rw [show before = frame from receiveAll_of_not_running ended events] at running
      exact ended running
    have recorded : frame.view.board.cells.length ≤ frame.app.displaySequence.length :=
      length_cells_draw due drew
    constructor
    · intro settled keeps _
      refine stillSeen_of_prefix recorded ?_ column row
      rw [settled]
      exact sequence_prefix_receiveAll keeps
    · intro notDragging
      have idle := (Drag.Engine.isDragging_eq_false_iff before.app.drag).mp notDragging
      have board : before.view.board = frame.view.board := frame.board_receiveAll events
      simpa only [running, true_imp_iff, true_and] using
        stillSeen_iff_press running idle board recorded column row
  · have unchanged : after = before := receive_of_not_running running _
    simp +contextual [running, unchanged]

/-- A release without a drag, an addition, and a drag during which a
removal is refused and which is given up, before the press on the second
of two chips. -/
theorem press_grabs_seen_chip_after_addition :
    let s := start (.start (.ofInitial (.ofLabels ["sushi"]) ["pizza", "AND"]) .standard)
      (.start 16 32)
    let events := [InputEvent.mouseUp 3 3, .mouseDown 30 14, .mouseDown 3 3, .mouseDrag 14 3,
      .trashLast, .escape]
    s.redraw = true ∧
      let frame := s.draw (40, 20)
      let before := frame.receiveAll events
      frame.app.displaySequence = frame.app.chips.sequence ∧
        frame.allKeepPlaces events = true ∧ before.status = .running ∧
        before.app.drag.isDragging = false ∧
        (before.receive (.mouseDown 14 3)).app.grabbed? = some (.condition .and) := by
  intro s events
  have due : s.redraw = true := rfl
  have settled : (s.draw (40, 20)).app.displaySequence = (s.draw (40, 20)).app.chips.sequence := by
    decide +kernel
  have keeps : (s.draw (40, 20)).allKeepPlaces events = true := by decide +kernel
  have running : ((s.draw (40, 20)).receiveAll events).status = .running := by decide +kernel
  have idle : ((s.draw (40, 20)).receiveAll events).app.drag.isDragging = false := by
    decide +kernel
  have drawn : (s.draw (40, 20)).chipUnder? 14 3 = some (.condition .and) := by decide +kernel
  obtain ⟨stays, right⟩ := press_grabs_seen_chip due (40, 20) events 14 3
  obtain ⟨begins, grabs⟩ := (right idle).mp (stays settled keeps)
  have begun := begins.mpr ⟨running, Option.isSome_of_eq_some drawn⟩
  exact ⟨due, settled, keeps, running, idle, (grabs begun).trans drawn⟩

/-- A removal first: the press on the chip drawn in the cell grabs the one
that took its index. -/
theorem press_grabs_unseen_chip :
    let app := App.start (.ofInitial (.ofLabels ["sushi"]) ["pizza"]) .standard
    let frame := (start app (.start 16 32)).draw (40, 20)
    let before := frame.receiveAll [.trashLast, .mouseDown 30 14]
    let after := before.receive (.mouseDown 3 3)
    app.Reachable ∧ frame.app = app ∧ app.displaySequence = app.chips.sequence ∧
      before.app.drag.isDragging = false ∧ after.app.drag.isDragging = true ∧
      frame.chipUnder? 3 3 = some (.identifier "pizza") ∧
      after.app.grabbed? = some (.identifier "sushi") := by
  intro app frame before after
  have reachable : app.Reachable := .start _ (Collection.reachable_ofInitial _ _)
  exact ⟨reachable, by decide +kernel, by decide +kernel, by decide +kernel, by decide +kernel,
    by decide +kernel, by decide +kernel⟩

end Interaction

end FilterChips

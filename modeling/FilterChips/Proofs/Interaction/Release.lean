/-
FilterChips.Proofs.Interaction.Release — what a frame shows of a drag is
what a release at the pointer does.

Three things must agree: the hover that a session remembers and the frame
paints, the decision that a release takes from the position of the
pointer, and the placeholder that the preview shows and the commit uses.

* Every frame of one size has its trash in the same place
  (`trash_areas`), and no input moves it. So in all that frames of one
  size and inputs reach, a position is on the recorded trash just when it
  is on that of the next frame (`Shown.trash_eq`).
* A move reports the hover only when it changes, but afterwards the
  session has it right in any case (`run_moveActions`).
* A release beside the trash makes the sequence what was shown, and one on
  the trash removes the chip at the session's index
  (`App.drop_beside_trash`, `App.drop_on_trash`).
-/
import FilterChips.Proofs.App.Transaction
import FilterChips.Proofs.View.Places
import FilterChips.Input.Response

namespace FilterChips

/-! ## §1 The trash stays where it is -/

/-- The place of the trash depends on the size of the frame alone. -/
theorem Frame.trash_areas (width height rows : Nat) :
    (areas width height rows).trash = (areas width height 0).trash :=
  rfl

namespace View

theorem trash_of_drawFrame {view recorded : View} {app : App} {width height : Nat}
    {screen : Buffer} (h : view.drawFrame app width height = .ok (recorded, screen)) :
    recorded.trash = (Frame.areas width height 0).trash := by
  obtain ⟨layout, hlayout, rfl, -⟩ := drawFrame_eq_ok_iff.mp h
  obtain ⟨rows, -, hareas, -⟩ := Frame.layout_eq_ok_iff.mp hlayout
  calc (layout.record view).trash = layout.areas.trash := rfl
    _ = (Frame.areas width height rows).trash := by rw [hareas]
    _ = (Frame.areas width height 0).trash := Frame.trash_areas ..

/-- No input moves it. -/
theorem trash_actionsFor (view : View) (app : App) (event : InputEvent) :
    (view.actionsFor app event).2.trash = view.trash := by
  obtain ⟨query, same⟩ := view.exists_query_actionsFor app event
  rw [same]

/-- The states that frames of one size, inputs and validations reach. The
first frame may follow any actions and any view, and so may a later one. -/
inductive Shown (width height : Nat) : App → View → Prop where
  | frame {app : App} {view recorded : View} {screen : Buffer} :
      app.Reachable → view.drawFrame app width height = .ok (recorded, screen) →
      Shown width height app recorded
  | input {app next : App} {view : View} {effects : List Effect} (event : InputEvent) :
      Shown width height app view →
      app.run (view.actionsFor app event).1 = .ok (next, effects) →
      Shown width height next (view.actionsFor app event).2
  | validation {app next : App} {view : View} {effect : Effect} :
      Shown width height app view → app.update .revalidate = .ok (next, effect) →
      Shown width height next view

variable {width height : Nat} {app : App} {view : View}

theorem Shown.reachable (h : Shown width height app view) : app.Reachable := by
  induction h with
  | frame reachable => exact reachable
  | input _ _ run ih => exact ih.run run
  | validation _ updated ih => exact ih.step (App.update_eq_ok_iff.mp updated)

theorem Shown.trash_eq (h : Shown width height app view) :
    view.trash = (Frame.areas width height 0).trash := by
  induction h with
  | frame _ drawn => exact trash_of_drawFrame drawn
  | input event _ _ ih => rw [trash_actionsFor, ih]
  | validation _ _ ih => exact ih

/-! ## §2 A move and a release -/

/-- After a move of the mouse the session knows whether the pointer is
over the trash, whether that was reported or not; and the chips are the
same. -/
theorem run_moveActions (view : View) {session : Drag.Session Double}
    (hs : app.drag.session = some session) (column row : Nat) :
    ∃ moved effects session', app.run (view.moveActions app column row) = .ok (moved, effects) ∧
      moved.chips = app.chips ∧ moved.drag.session = some session' ∧
      session'.index = session.index ∧
      session'.overDeleteTarget = view.trash.contains column row := by
  let pointer := view.geometry.point column row
  by_cases known : view.trash.contains column row = session.overDeleteTarget
  · have actions : view.moveActions app column row = [.pointerMoved pointer] := by
      simp [moveActions, hs, known, pointer]
    rw [actions]
    exact ⟨_, _, _, App.run_cons .moved rfl, rfl, Drag.Engine.session_dragTo hs pointer, rfl,
      known.symm⟩
  · have actions : view.moveActions app column row =
        [.deleteTargetHover (view.trash.contains column row), .pointerMoved pointer] := by
      simp [moveActions, hs, known, pointer]
    rw [actions]
    have hovered := Drag.Engine.session_hover hs (view.trash.contains column row)
    exact ⟨_, _, _, App.run_cons .hovered (App.run_cons .moved rfl), rfl,
      Drag.Engine.session_dragTo hovered pointer, rfl, rfl⟩

/-- What a frame shows of a session. -/
theorem lifted_of_session {session : Drag.Session Double} (hs : app.drag.session = some session) :
    ∃ lifted, Frame.lifted app = some lifted ∧ lifted.overTrash = session.overDeleteTarget := by
  simp [Frame.lifted, hs]

/-- **A release does what the frame shows**: after frames of one size and
any inputs, with a drag under way, let the mouse move to a position, let a
frame of the same size be drawn, and let the button be released there. The
frame marks the chip as over the trash just when the position is on the
trash of that frame. If it does, the release takes the grabbed chip, and
no other, out of the sequence and gives it back to the pool if it is an
identifier; if not, it makes the sequence the one that the frame showed
and leaves the pool alone. -/
theorem release_does_what_frame_shows (shown : Shown width height app view)
    {session : Drag.Session Double} (dragging : app.drag.session = some session)
    (column row : Nat) :
    ∃ (present : session.index < app.chips.sequence.length) (moved : App) (effects : List Effect),
      let grabbed := app.chips.sequence[session.index]
      let pointed := (view.actionsFor app (.mouseDrag column row)).2
      app.run (view.actionsFor app (.mouseDrag column row)).1 = .ok (moved, effects) ∧
      ∀ frame screen, pointed.drawFrame moved width height = .ok (frame, screen) →
        ∃ lifted released,
          Frame.lifted moved = some lifted ∧
          moved.run (frame.actionsFor moved (.mouseUp column row)).1 =
            .ok (released, [.scheduleValidation]) ∧
          (lifted.overTrash = true ↔ frame.OnTrash column row) ∧
          (lifted.overTrash = true →
            released.chips.sequence = app.chips.sequence.eraseIdx session.index ∧
            released.chips.pool.chips =
              if grabbed.isIdentifier then app.chips.pool.chips ++ [grabbed]
              else app.chips.pool.chips) ∧
          (lifted.overTrash = false →
            released.chips.sequence = moved.displaySequence ∧
            released.chips.pool = app.chips.pool) := by
  have present := shown.reachable.index_lt session dragging
  obtain ⟨moved, effects, session', run, chips, hs', index, hover⟩ :=
    view.run_moveActions dragging column row
  refine ⟨present, moved, effects, run, fun frame screen drawn => ?_⟩
  obtain ⟨lifted, hlifted, marked⟩ := lifted_of_session hs'
  have same : frame.trash = view.trash := (trash_of_drawFrame drawn).trans shown.trash_eq.symm
  have onTrash_eq : lifted.overTrash = frame.trash.contains column row := by
    rw [marked, hover, same]
  have reachable : moved.Reachable := shown.reachable.run run
  have dropping : moved.drag.isDragging = true := by simp [Drag.Engine.isDragging, hs']
  have release : (frame.actionsFor moved (.mouseUp column row)).1 =
      [.endDrag lifted.overTrash] := by
    simp [actionsFor, dropping, onTrash_eq]
  refine ⟨lifted, moved.drop lifted.overTrash, hlifted, ?_, ?_, ?_, ?_⟩
  · rw [release]
    exact App.run_cons (.dropped dropping) rfl
  · rw [onTrash_eq]
    rfl
  · intro onTrash
    have present' : session'.index < moved.chips.sequence.length := by
      rw [chips, index]
      exact present
    obtain ⟨removed, returned, -⟩ := App.drop_on_trash reachable hs' present'
    simp only [chips, index] at removed returned
    rw [onTrash]
    exact ⟨removed, returned⟩
  · intro beside
    obtain ⟨shownSequence, pool⟩ := App.drop_beside_trash hs'
    rw [beside, ← chips]
    exact ⟨shownSequence, pool⟩

/-- A press on the first of two chips and a move to the trash: the frame
marks the chip, and the release gives it back to the pool. -/
theorem release_on_trash_after_press :
    let app := App.start (.ofInitial (.ofLabels ["sushi"]) ["pizza", "AND"]) .standard
    let view := View.start 16 32
    ∃ recorded screen pressed session moved effects frame screen' released,
      view.drawFrame app 40 14 = .ok (recorded, screen) ∧
        Shown 40 14 pressed recorded ∧ pressed.drag.session = some session ∧
        pressed.run (recorded.actionsFor pressed (.mouseDrag 30 12)).1 = .ok (moved, effects) ∧
        recorded.drawFrame moved 40 14 = .ok (frame, screen') ∧
        moved.run (frame.actionsFor moved (.mouseUp 30 12)).1 =
          .ok (released, [.scheduleValidation]) ∧
        released.chips.sequence = [.condition .and] ∧
        released.chips.pool.chips = [.identifier "sushi", .identifier "pizza"] := by
  intro app view
  let layout := Frame.Layout.ofTwoChips
  have laid : Frame.layout app view.palette.query 40 14 = .ok layout := by decide +kernel
  have drawn := drawFrame_eq_ok_iff.mpr ⟨layout, laid, rfl, rfl⟩
  have first : Shown 40 14 app (layout.record view) :=
    .frame (.start _ (Collection.reachable_ofInitial _ _)) drawn
  let recorded := layout.record view
  -- The press begins a drag of the first chip, and so the move is over a session.
  let start := recorded.geometry.point 3 3
  let pressed : App := { app with drag := { app.drag with
    session := some ⟨0, 0, start, start, false, recorded.geometry.chipRects⟩
    hub := app.drag.hub.acquire } }
  have begun : App.Step app (.beginDrag 0 start recorded.geometry.chipRects) pressed .none :=
    .begun rfl (by decide +kernel)
  have press : app.run (recorded.actionsFor app (.mouseDown 3 3)).1 = .ok (pressed, [.none]) :=
    App.run_cons begun rfl
  have shown : Shown 40 14 pressed recorded := first.input (.mouseDown 3 3) press
  obtain ⟨present, moved, effects, run, released⟩ := release_does_what_frame_shows shown rfl 30 12
  let hovered : App := { pressed with drag := pressed.drag.hover true }
  let last : App :=
    { hovered with drag := (hovered.drag.dragTo (recorded.geometry.point 30 12)).2 }
  have moves : pressed.run (recorded.actionsFor pressed (.mouseDrag 30 12)).1 =
      .ok (last, [.none, .none]) :=
    App.run_cons .hovered (App.run_cons .moved rfl)
  have isLast : moved = last := (Prod.mk.inj (Except.ok.inj (run.symm.trans moves))).1
  rw [isLast] at run released
  -- The trash is below the reach of every row of the board, so the preview is as before.
  have laid' : Frame.layout last "" 40 14 = .ok layout := by decide +kernel
  have drawn' : recorded.drawFrame last 40 14 =
      .ok (recorded, Frame.paint last recorded layout (.blank 40 14)) :=
    drawFrame_eq_ok_iff.mpr ⟨layout, laid', rfl, rfl⟩
  generalize Frame.paint last recorded layout (.blank 40 14) = screen at drawn'
  obtain ⟨lifted, next, -, release, marked, onTrash, -⟩ := released _ screen drawn'
  obtain ⟨sequence, pool⟩ := onTrash (marked.mpr rfl)
  exact ⟨_, _, _, _, _, _, _, _, _, drawn, shown, rfl, run, drawn', release, sequence, pool⟩

end View

end FilterChips

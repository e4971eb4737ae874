/-
FilterChips.Proofs.Interaction.Resolution — a press on a fresh frame does
what the frame promises at its position.

What a press finds depends on a search for the first cell or hit at the
position. Since cells and hits do not overlap (`View.places_disjoint`),
the first is the only one. And what it finds is accepted: an index of the
board is one of the sequence, since no chip is moved while nothing is
dragged, and a chip on offer is either a condition or an identifier that
is still in the pool.
-/
import FilterChips.Proofs.App.Transaction
import FilterChips.Proofs.View.Places
import FilterChips.Input.Response

namespace FilterChips

/-- A chip on offer is never refused. -/
theorem Collection.add_of_mem_offered (c : Collection) {query : String} {chip : Chip}
    (h : chip ∈ c.pool.offered query) : (c.add chip).1 = true := by
  rcases List.mem_append.mp h with always | matching
  · obtain ⟨condition, -, rfl⟩ := List.mem_map.mp always
    rw [add_of_not_isIdentifier c (Chip.isIdentifier_condition condition)]
  · have inPool : chip ∈ c.pool.chips := (List.mem_filter.mp matching).1
    rw [add_of_mem c (c.pool.identifiers chip inPool) (List.mem_map_of_mem inPool)]

namespace View

/-! ## §1 What a press can do -/

/-- The press causes one action, which begins a drag of the chip at an
index of the sequence, with a rectangle for each recorded cell. -/
def PressGrabs (view : View) (app : App) (column row index : Nat) : Prop :=
  ∃ pointer rects next session,
    view.actionsFor app (.mouseDown column row) = ([.beginDrag index pointer rects], view) ∧
      rects.length = view.board.cells.length ∧
      app.update (.beginDrag index pointer rects) = .ok (next, .none) ∧
      next.drag.session = some session ∧ session.index = index ∧
      index < next.chips.sequence.length

/-- The press causes one action, which appends a chip and asks for a
validation. -/
def PressAdds (view : View) (app : App) (column row : Nat) (chip : Chip) : Prop :=
  ∃ next,
    view.actionsFor app (.mouseDown column row) = ([.addChip chip], view) ∧
      app.update (.addChip chip) = .ok (next, .scheduleValidation) ∧
      next.chips.sequence = app.chips.sequence ++ [chip]

theorem chipAt?_of_not_onBoard (view : View) {column row : Nat}
    (beside : ¬ view.OnBoard column row) : view.board.chipAt? column row = none := by
  refine List.findIdx?_eq_none_iff.mpr fun cell hcell => ?_
  exact Bool.eq_false_iff.mpr fun hc => beside ⟨cell, hcell, hc⟩

theorem pressGrabs_of_contains {view : View} {app : App} (idle : app.drag.session = none)
    (ordered : view.board.cells.Pairwise Rect.Precedes)
    (present : view.board.cells.length ≤ app.chips.sequence.length) {column row i : Nat}
    (hi : i < view.board.cells.length) (at_cell : view.board.cells[i].contains column row = true) :
    view.PressGrabs app column row i := by
  have notDragging := (Drag.Engine.isDragging_eq_false_iff app.drag).mpr idle
  have found : view.board.chipAt? column row = some i := Flow.hit?_of_contains ordered hi at_cell
  have inSequence : i < app.chips.sequence.length := Nat.lt_of_lt_of_le hi present
  refine ⟨view.geometry.point column row, view.geometry.chipRects, _, _, ?_, ?_,
    (App.Step.begun idle inSequence).update_eq, rfl, rfl, inSequence⟩
  · simp [actionsFor, pressActions, notDragging, found]
  · exact List.length_map _

theorem pressAdds_of_contains {view : View} {app : App} (idle : app.drag.session = none)
    (ordered : (view.palette.hits.map Hit.cell).Pairwise Rect.Precedes) {column row : Nat}
    (beside : ¬ view.OnBoard column row) {k : Nat} (hk : k < view.palette.hits.length)
    (at_hit : view.palette.hits[k].cell.contains column row = true) {query : String}
    (offered : view.palette.hits[k].chip ∈ app.chips.pool.offered query) :
    view.PressAdds app column row view.palette.hits[k].chip := by
  have notDragging := (Drag.Engine.isDragging_eq_false_iff app.drag).mpr idle
  have missed := view.chipAt?_of_not_onBoard beside
  have found := Palette.chipAt?_of_contains ordered hk at_hit
  rcases added : app.chips.add view.palette.hits[k].chip with ⟨_ | _, chips⟩
  · have accepted := app.chips.add_of_mem_offered offered
    simp [added] at accepted
  · refine ⟨_, ?_, (App.Step.added added).update_eq, Collection.sequence_of_add added⟩
    simp [actionsFor, pressActions, notDragging, missed, found]

/-- Beside everything a press causes nothing. -/
theorem press_of_beside {view : View} (app : App) {column row : Nat}
    (board : ¬ view.OnBoard column row) (palette : ¬ view.OnPalette column row) :
    view.actionsFor app (.mouseDown column row) = ([], view) := by
  have missed := view.chipAt?_of_not_onBoard board
  have none : view.palette.chipAt? column row = none := by
    simp only [Palette.chipAt?, Option.map_eq_none_iff, List.find?_eq_none]
    exact fun hit hhit hc => palette ⟨hit, hhit, hc⟩
  simp [actionsFor, pressActions, missed, none]

/-! ## §2 The frame -/

/-- **A press does what was drawn**: after a frame with nothing dragged,
each position is on one cell of the board, on one hit of the palette, on
the trash or on none of them, and on no two of these. A press on a cell
begins a drag of the chip with the cell's index, one on a hit appends the
chip of the hit, and any other press causes nothing. -/
theorem press_resolves_to_drawn {view recorded : View} {app : App} {width height : Nat}
    {screen : Buffer} (idle : app.drag.isDragging = false)
    (drawn : view.drawFrame app width height = .ok (recorded, screen)) (column row : Nat) :
    (∀ (i : Nat) (hi : i < recorded.board.cells.length),
        recorded.board.cells[i].contains column row = true →
          (∀ (j : Nat) (hj : j < recorded.board.cells.length),
            recorded.board.cells[j].contains column row = true → j = i) ∧
          recorded.PressGrabs app column row i) ∧
      (¬ recorded.OnBoard column row →
        ∀ (k : Nat) (hk : k < recorded.palette.hits.length),
          recorded.palette.hits[k].cell.contains column row = true →
            (∀ (l : Nat) (hl : l < recorded.palette.hits.length),
              recorded.palette.hits[l].cell.contains column row = true → l = k) ∧
            recorded.PressAdds app column row recorded.palette.hits[k].chip) ∧
      (¬ recorded.OnBoard column row → ¬ recorded.OnPalette column row →
        recorded.actionsFor app (.mouseDown column row) = ([], recorded)) ∧
      ¬ (recorded.OnBoard column row ∧ recorded.OnPalette column row) ∧
      ¬ (recorded.OnBoard column row ∧ recorded.OnTrash column row) ∧
      ¬ (recorded.OnPalette column row ∧ recorded.OnTrash column row) := by
  have settled := (Drag.Engine.isDragging_eq_false_iff app.drag).mp idle
  obtain ⟨layout, hlayout, same, -⟩ := drawFrame_eq_ok_iff.mp drawn
  obtain ⟨rows, -, -, hboard, hhits⟩ := Frame.layout_eq_ok_iff.mp hlayout
  have board : recorded.board = layout.board := by rw [same]; rfl
  have hits : recorded.palette.hits = layout.hits := by rw [same]; rfl
  rw [← board] at hboard
  rw [← hits] at hhits
  obtain ⟨cellsOrdered, -⟩ := BoardLayout.cells_ofChips hboard
  obtain ⟨hitsOrdered, hitsDrawn⟩ := Palette.hits_hitsIn hhits
  have present : recorded.board.cells.length ≤ app.chips.sequence.length := by
    have shown := BoardLayout.length_cells_le hboard
    rwa [App.displaySequence, Drag.Engine.preview_of_idle settled] at shown
  refine ⟨fun i hi ci => ⟨fun j hj cj => ?_, ?_⟩,
    fun beside k hk ck => ⟨fun l hl cl => ?_, ?_⟩,
    fun beside off => press_of_beside app beside off, places_disjoint drawn column row⟩
  · exact Rect.eq_of_contains cellsOrdered hj hi cj ci
  · exact pressGrabs_of_contains settled cellsOrdered present hi ci
  · exact Hit.eq_of_contains hitsOrdered hl hk cl ck
  · exact pressAdds_of_contains settled hitsOrdered beside hk ck
      (hitsDrawn _ (List.getElem_mem hk)).2

/-- Two chips on the board and five on offer, in one row each: a press on
a corner of the second chip drags it, one on a corner of the last hit adds
its chip, and one on the column between the two chips does nothing. -/
theorem press_on_second_chip_and_last_hit :
    let app := App.start (.ofInitial (.ofLabels ["sushi"]) ["pizza", "AND"]) .standard
    let view := View.start 16 32
    app.drag.isDragging = false ∧
      ∃ recorded screen, view.drawFrame app 40 14 = .ok (recorded, screen) ∧
        recorded.PressGrabs app 17 4 1 ∧ recorded.PressAdds app 28 7 (.identifier "sushi") ∧
        recorded.actionsFor app (.mouseDown 10 3) = ([], recorded) := by
  intro app view
  let layout := Frame.Layout.ofTwoChips
  have idle : app.drag.isDragging = false := rfl
  have laid : Frame.layout app view.palette.query 40 14 = .ok layout := by decide +kernel
  have drawn := drawFrame_eq_ok_iff.mpr ⟨layout, laid, rfl, rfl⟩
  refine ⟨idle, _, _, drawn, ?_, ?_, ?_⟩
  · have onChip := (press_resolves_to_drawn idle drawn 17 4).1
    exact (onChip 1 (by decide) (by decide)).2
  · have onHit := (press_resolves_to_drawn idle drawn 28 7).2.1
    exact (onHit (by decide) 4 (by decide) (by decide)).2
  · have beside := (press_resolves_to_drawn idle drawn 10 3).2.2.1
    exact beside (by decide) (by decide)

end View

end FilterChips

/-
FilterChips.Proofs.App.Highlight — the chip drawn as lifted is the chip
that was grabbed.

The frame and the preview look at the placeholder independently of each
other. The frame cuts it down to the last index of the sequence shown; the
preview cuts the other chips in two there, and so puts the grabbed chip
last when the placeholder is past the end. Since a move changes no length,
the last index is the same on both sides, and what the frame draws in its
position is what `moveChip` put there (`lifted_of_present`).

For this the session must have a chip at all. Whatever actions come, with
whatever rectangles, it does (`index_lt_of_run`).
-/
import FilterChips.Proofs.App.Transaction
import FilterChips.View.Frame

namespace FilterChips

/-- Only the chip at the position is drawn in a look of its own. -/
theorem BoardLayout.look_ne_normal_iff (l : Lifted) (index : Nat) :
    look (some l) index ≠ .normal ↔ index = l.position := by
  by_cases here : l.position = index
  · simp only [look, here, iff_true]
    cases l.overTrash <;> decide
  · have elsewhere : index ≠ l.position := Ne.symm here
    simp [look, here, elsewhere]

namespace App

/-- The position of the frame is that of the grabbed chip, where there is
one. -/
theorem lifted_of_present {app : App} {session : Drag.Session Double}
    (hs : app.drag.session = some session) (present : session.index < app.chips.sequence.length) :
    let position := min session.placeholder (app.displaySequence.length - 1)
    Frame.lifted app = some ⟨position, session.overDeleteTarget⟩ ∧
      position < app.displaySequence.length ∧
      app.displaySequence[position]? = some app.chips.sequence[session.index] := by
  have shown : app.displaySequence =
      Collection.moveChip app.chips.sequence session.index session.placeholder :=
    Drag.Engine.preview_of_session hs _
  refine ⟨by simp [Frame.lifted, hs], ?_, ?_⟩
  · rw [length_displaySequence]
    omega
  · rw [length_displaySequence, shown]
    exact Collection.getElem?_moveChip present _

/-- **The highlighted chip is the grabbed chip**: from the start of the
application with any chips and any settings, after any actions with any
arguments, if a drag is under way, then the position at which the frame
draws a chip as lifted is an index of the sequence shown; the chip there is
the one that the session drags; and no other index is drawn so. -/
theorem highlighted_is_grabbed (chips : Collection) (config : Drag.Config Double)
    (actions : List Action) :
    ∃ reached effects, (start chips config).run actions = .ok (reached, effects) ∧
      ∀ session, reached.drag.session = some session →
        ∃ grabbed, reached.chips.sequence[session.index]? = some grabbed ∧
          let position := min session.placeholder (reached.displaySequence.length - 1)
          Frame.lifted reached = some ⟨position, session.overDeleteTarget⟩ ∧
          position < reached.displaySequence.length ∧
          reached.displaySequence[position]? = some grabbed ∧
          ∀ index, BoardLayout.look (Frame.lifted reached) index ≠ .normal ↔ index = position := by
  obtain ⟨reached, effects, hr⟩ := exists_run (start chips config) actions
  refine ⟨reached, effects, hr, fun session hs => ?_⟩
  have present : session.index < reached.chips.sequence.length :=
    index_lt_of_run (by simp [start, Drag.Engine.idle]) hr session hs
  obtain ⟨lifted, within, there⟩ := lifted_of_present hs present
  refine ⟨_, List.getElem?_eq_getElem present, lifted, within, there, fun index => ?_⟩
  rw [lifted]
  exact BoardLayout.look_ne_normal_iff _ index

/-- More rectangles than chips, and one chip more during the drag: the
placeholder is past the end, and the grabbed chip is drawn last. -/
theorem highlighted_past_last_chip :
    let app := start (.ofInitial (.ofLabels ["sushi"]) ["pizza", "AND"]) .standard
    let rects : List (Drag.ChipRect Double) := [.ofSize 0 0 40 32, .ofSize 48 0 40 32,
      .ofSize 96 0 40 32, .ofSize 144 0 40 32, .ofSize 192 0 40 32]
    let actions := [Action.beginDrag 0 ⟨20, 16⟩ rects, .pointerMoved ⟨300, 16⟩,
      .addChip (.identifier "sushi")]
    ∃ reached effects session, app.run actions = .ok (reached, effects) ∧
      reached.drag.session = some session ∧ session.placeholder = 4 ∧
      reached.displaySequence.length = 3 ∧ Frame.lifted reached = some ⟨2, false⟩ ∧
      reached.displaySequence[2]? = some (.identifier "pizza") := by
  intro app rects actions
  obtain ⟨reached, effects, hr, highlighted⟩ := highlighted_is_grabbed
    (.ofInitial (.ofLabels ["sushi"]) ["pizza", "AND"]) .standard actions
  have values : (app.run actions).toOption.bind (fun result => result.1.drag.session.map
      fun session => ((session.placeholder, session.overDeleteTarget),
        result.1.displaySequence.length, result.1.chips.sequence[session.index]?)) =
      some ((4, false), 3, some (.identifier "pizza")) := by
    decide +kernel
  rw [show app.run actions = _ from hr] at values
  obtain ⟨session, hs, values⟩ := Option.map_eq_some_iff.mp values
  simp only [Prod.mk.injEq] at values
  obtain ⟨⟨placeholder, hovering⟩, length, dragged⟩ := values
  obtain ⟨grabbed, present, lifted, -, there, -⟩ := highlighted session hs
  rw [placeholder, length, hovering] at lifted
  rw [placeholder, length, ← present, dragged] at there
  exact ⟨reached, effects, session, hr, hs, placeholder, length, lifted, there⟩

end App

end FilterChips

/-
FilterChips.Proofs.App.Transaction — a drag is a transaction on the
sequence.

A session remembers the dragged chip by its index alone, so everything
depends on what other actions do to the sequence in the meantime.
`Step.during_drag` goes through them: removals are refused, a second drag
does not begin, and what an addition appends comes after every index
there is. So a run of any length that does not end the drag leaves the
sequence with the additions appended and the session with its index
(`run_during_drag`), and the end of the drag finds the grabbed chip where
it was.

On the way to the pool the grabbed chip could still be dropped, if its
label were in the pool already. That no reachable state allows this is
conservation (`Collection.Reachable.nodup_holdings`).
-/
import FilterChips.Proofs.App.Steps
import FilterChips.Proofs.Drag.Preview

namespace FilterChips

/-- Whether an action ends a drag that is under way. -/
def Action.endsDrag : Action → Bool
  | .endDrag _ => true
  | .cancelDrag => true
  | _ => false

namespace App

/-! ## §1 While the drag lasts -/

/-- The chip that an action appended, judging by the effect. -/
def appended : Action → Effect → List Chip
  | .addChip chip, .scheduleValidation => [chip]
  | _, _ => []

/-- The chips that some actions appended, judging by their effects. -/
def appendedBy (actions : List Action) (effects : List Effect) : List Chip :=
  (actions.zipWith appended effects).flatten

/-- An action that does not end the drag leaves the session its index and
the sequence a prefix of itself. -/
theorem Step.during_drag {app next : App} {action : Action} {effect : Effect}
    {session : Drag.Session Double} (step : Step app action next effect)
    (hs : app.drag.session = some session) (unfinished : action.endsDrag = false) :
    next.chips.sequence = app.chips.sequence ++ appended action effect ∧
      ∃ session', next.drag.session = some session' ∧ session'.index = session.index := by
  have kept : ∃ session', app.drag.session = some session' ∧ session'.index = session.index :=
    ⟨session, hs, rfl⟩
  cases step with
  | blocked => exact ⟨by cases action <;> simp [appended], kept⟩
  | added h => exact ⟨Collection.sequence_of_add h, kept⟩
  | refused => exact ⟨by simp [appended], kept⟩
  | trashed idle => simp [hs] at idle
  | missed idle => simp [hs] at idle
  | cleared idle => simp [hs] at idle
  | begun idle => simp [hs] at idle
  | notBegun => exact ⟨by simp [appended], kept⟩
  | moved => exact ⟨by simp [appended], _, Drag.Engine.session_dragTo hs _, rfl⟩
  | hovered => exact ⟨by simp [appended], _, Drag.Engine.session_hover hs _, rfl⟩
  | dropped => simp [Action.endsDrag] at unfinished
  | cancelled => simp [Action.endsDrag] at unfinished
  | notDropped => simp [Action.endsDrag] at unfinished
  | notCancelled => simp [Action.endsDrag] at unfinished
  | revalidated => exact ⟨by simp [appended], kept⟩
  | quit => exact ⟨by simp [appended], kept⟩

/-- The same for a run of such actions. -/
theorem run_during_drag {app last : App} {actions : List Action} {effects : List Effect}
    {session : Drag.Session Double} (hs : app.drag.session = some session)
    (unfinished : ∀ action ∈ actions, action.endsDrag = false)
    (hr : app.run actions = .ok (last, effects)) :
    last.chips.sequence = app.chips.sequence ++ appendedBy actions effects ∧
      ∃ session', last.drag.session = some session' ∧ session'.index = session.index := by
  induction actions generalizing app effects session with
  | nil =>
    cases hr
    exact ⟨by simp [appendedBy], session, hs, rfl⟩
  | cons action actions ih =>
    obtain ⟨next, effect, rest, step, tail, rfl⟩ := run_cons_eq_ok_iff.mp hr
    obtain ⟨first, session', hs', hi'⟩ := step.during_drag hs (unfinished action List.mem_cons_self)
    obtain ⟨more, session'', hs'', hi''⟩ :=
      ih hs' (fun a ha => unfinished a (List.mem_cons_of_mem _ ha)) tail
    refine ⟨?_, session'', hs'', hi''.trans hi'⟩
    rw [more, first, List.append_assoc]
    rfl

/-! ## §2 The three ends -/

/-- Dropping the grabbed chip on the trash takes it out of the sequence,
names it in the status line, and puts it at the end of the pool if it is
an identifier. -/
theorem drop_on_trash {app : App} (reachable : app.Reachable)
    {session : Drag.Session Double} (hs : app.drag.session = some session)
    (hi : session.index < app.chips.sequence.length) :
    (app.drop true).chips.sequence = app.chips.sequence.eraseIdx session.index ∧
      (app.drop true).chips.pool.chips =
        (if app.chips.sequence[session.index].isIdentifier then
          app.chips.pool.chips ++ [app.chips.sequence[session.index]]
        else app.chips.pool.chips) ∧
      (app.drop true).status = "Removed " ++ app.chips.sequence[session.index].label := by
  have commit : Drag.Engine.commitOf session true = .remove session.index := rfl
  simp only [drop, Drag.Engine.release_of_session hs, commit, Collection.apply,
    Collection.trash_of_lt _ hi, Collection.sequence_scheduleValidation,
    Collection.pool_scheduleValidation, List.getElem?_eq_getElem hi, Option.map_some,
    Option.getD_some]
  refine ⟨trivial, ?_, trivial⟩
  cases hk : app.chips.sequence[session.index].isIdentifier with
  | false => simp [IdentifierPool.insert_of_not_isIdentifier hk]
  | true =>
    have absent := Collection.label_not_mem_pool reachable.chips.nodup_holdings
      (List.getElem_mem hi) hk
    simp [IdentifierPool.chips_insert_of_not_mem hk absent]

/-- Dropping it beside the trash makes the sequence what was shown. -/
theorem drop_beside_trash {app : App} {session : Drag.Session Double}
    (hs : app.drag.session = some session) :
    (app.drop false).chips.sequence = app.displaySequence ∧
      (app.drop false).chips.pool = app.chips.pool := by
  simp only [drop, Drag.Engine.release_of_session hs, Drag.Engine.apply_commitOf, displaySequence,
    Drag.Engine.preview_of_session hs, Collection.sequence_scheduleValidation,
    Collection.pool_scheduleValidation, and_self]

/-- A drag shows as many chips as there are. -/
theorem length_displaySequence (app : App) :
    app.displaySequence.length = app.chips.sequence.length := by
  obtain ⟨-, -, perm, -⟩ := Drag.Engine.preview_is_committed app.drag app.chips
  exact perm.length_eq

/-- However it is dropped, no drag is left. -/
theorem isDragging_drop {app : App} {session : Drag.Session Double}
    (hs : app.drag.session = some session) (onTarget : Bool) :
    (app.drop onTarget).drag.isDragging = false := by
  simp [drop, Drag.Engine.release_of_session hs, Drag.Engine.isDragging]

/-- Giving the drag up changes neither the sequence nor the pool. -/
theorem cancel_keeps_chips {app : App} {session : Drag.Session Double}
    (hs : app.drag.session = some session) :
    (app.chips.apply app.drag.cancel.1).sequence = app.chips.sequence ∧
      (app.chips.apply app.drag.cancel.1).pool = app.chips.pool ∧
      app.drag.cancel.2.isDragging = false := by
  rw [Drag.Engine.cancel_of_session hs]
  exact ⟨rfl, rfl, rfl⟩

/-- What ends a drag leaves no session. -/
theorem Step.session_of_endsDrag {app next : App} {action : Action} {effect : Effect}
    (step : Step app action next effect) (ends : action.endsDrag = true) :
    next.drag.session = none := by
  cases step with
  | dropped => exact app.drag.session_release _
  | cancelled => exact app.drag.session_cancel
  | notDropped idle | notCancelled idle => exact idle
  | blocked blocked => cases action <;> simp [Action.endsDrag, isBlocked] at ends blocked
  | _ => simp [Action.endsDrag] at ends

/-- The session of a drag has the index of a chip, before an action and
after it. -/
theorem Step.index_lt {app next : App} {action : Action} {effect : Effect}
    (step : Step app action next effect)
    (before : ∀ session, app.drag.session = some session →
      session.index < app.chips.sequence.length) :
    ∀ session, next.drag.session = some session → session.index < next.chips.sequence.length := by
  intro session hs
  cases ends : action.endsDrag with
  | true => simp [step.session_of_endsDrag ends] at hs
  | false =>
    cases started : app.drag.session with
    | some earlier =>
      obtain ⟨grown, later, hlater, same⟩ := step.during_drag started ends
      rw [hlater] at hs
      cases hs
      rw [grown, same, List.length_append]
      exact Nat.lt_add_right _ (before earlier started)
    | none =>
      cases step with
      | begun _ present =>
        cases hs
        exact present
      | moved => simp [Drag.Engine.dragTo, Drag.Engine.moveOver, started] at hs
      | hovered => simp [Drag.Engine.hover, started] at hs
      | dropped | cancelled => simp [Action.endsDrag] at ends
      | _ => simp [started] at hs

theorem Reachable.index_lt {app : App} (h : app.Reachable) :
    ∀ session, app.drag.session = some session → session.index < app.chips.sequence.length := by
  induction h with
  | start => simp [App.start, Drag.Engine.idle]
  | step _ step ih => exact step.index_lt ih

/-- No run loses the chip of a session. -/
theorem index_lt_of_run {app last : App} {actions : List Action} {effects : List Effect}
    (before : ∀ session, app.drag.session = some session →
      session.index < app.chips.sequence.length)
    (h : app.run actions = .ok (last, effects)) :
    ∀ session, last.drag.session = some session → session.index < last.chips.sequence.length := by
  induction actions generalizing app effects with
  | nil =>
    cases h
    exact before
  | cons action actions ih =>
    obtain ⟨next, effect, rest, step, tail, -⟩ := run_cons_eq_ok_iff.mp h
    exact ih (step.index_lt before) tail

/-! ## §3 The transaction -/

/-- An action settles a drag: it asks for a validation and leaves no drag. -/
def Settles (app : App) (action : Action) (next : App) : Prop :=
  app.update action = .ok (next, .scheduleValidation) ∧ next.drag.isDragging = false

/-- **A drag is a transaction**: from any reachable state without a drag,
a drag of a chip that is there begins, and while it lasts the sequence is
the one at its beginning with the additions behind it — after any actions
that do not end it, and so after every part of a run. Its end on the trash
removes exactly the grabbed chip, names it and gives it back if it is an
identifier; giving it up changes nothing; its end beside the trash makes
the sequence what was shown. -/
theorem drag_is_transaction {app : App} (reachable : app.Reachable)
    (idle : app.drag.isDragging = false) {index : Nat}
    (present : index < app.chips.sequence.length) (pointer : Drag.Point Double)
    (geometry : List (Drag.ChipRect Double)) (actions : List Action)
    (unfinished : ∀ action ∈ actions, action.endsDrag = false) :
    ∃ begun during effects,
      app.update (.beginDrag index pointer geometry) = .ok (begun, .none) ∧
      begun.run actions = .ok (during, effects) ∧
      let sequence := app.chips.sequence ++ appendedBy actions effects
      let grabbed := app.chips.sequence[index]
      during.chips.sequence = sequence ∧
      (∃ trashed, during.Settles (.endDrag true) trashed ∧
        trashed.chips.sequence = sequence.eraseIdx index ∧
        trashed.chips.pool.chips =
          (if grabbed.isIdentifier then during.chips.pool.chips ++ [grabbed]
          else during.chips.pool.chips) ∧
        trashed.status = "Removed " ++ grabbed.label) ∧
      (∃ kept, during.Settles .cancelDrag kept ∧
        kept.chips.sequence = sequence ∧ kept.chips.pool = during.chips.pool) ∧
      (∃ dropped, during.Settles (.endDrag false) dropped ∧
        dropped.chips.sequence = during.displaySequence ∧
        dropped.chips.pool = during.chips.pool) := by
  have began : Step app (.beginDrag index pointer geometry) _ .none :=
    .begun ((Drag.Engine.isDragging_eq_false_iff app.drag).mp idle) present
  obtain ⟨during, effects, hr⟩ := exists_run _ actions
  refine ⟨_, during, effects, began.update_eq, hr, ?_⟩
  obtain ⟨hsequence, session, hs, hindex⟩ := run_during_drag rfl unfinished hr
  have reached : during.Reachable := (reachable.step began).run hr
  have dragging : during.drag.isDragging = true := by simp [Drag.Engine.isDragging, hs]
  have hi : session.index < during.chips.sequence.length := by
    rw [hsequence, hindex, List.length_append]
    exact Nat.lt_add_right _ present
  have grabbed : during.chips.sequence[session.index] = app.chips.sequence[index] := by
    simp only [hsequence, hindex]
    exact List.getElem_append_left present
  refine ⟨hsequence, ⟨during.drop true, ?_, ?_⟩, ⟨_, ⟨(Step.cancelled dragging).update_eq, ?_⟩, ?_⟩,
    ⟨during.drop false, ?_, drop_beside_trash hs⟩⟩
  · exact ⟨(Step.dropped dragging).update_eq, isDragging_drop hs true⟩
  · obtain ⟨removed, returned, named⟩ := drop_on_trash reached hs hi
    rw [grabbed] at returned named
    rw [hsequence, hindex] at removed
    exact ⟨removed, returned, named⟩
  · exact (cancel_keeps_chips hs).2.2
  · obtain ⟨same, pool, -⟩ := cancel_keeps_chips hs
    exact ⟨same.trans hsequence, pool⟩
  · exact ⟨(Step.dropped dragging).update_eq, isDragging_drop hs false⟩

/-- The drag of a chip that is there alone, with an addition and two
refused removals before it lands on the trash. -/
theorem drag_of_pizza_is_transaction :
    let app := App.start (.ofInitial (.ofLabels ["sushi"]) ["pizza", "AND"]) .standard
    let actions := [Action.addChip (.identifier "sushi"), .trashChip 1, .clearAll]
    app.Reachable ∧ app.drag.isDragging = false ∧ 0 < app.chips.sequence.length ∧
      (∀ action ∈ actions, action.endsDrag = false) ∧
      ∃ begun during trashed effects,
        app.update (.beginDrag 0 ⟨.nan, .nan⟩ []) = .ok (begun, .none) ∧
        begun.run actions = .ok (during, effects) ∧
        during.Settles (.endDrag true) trashed ∧ trashed.status = "Removed pizza" := by
  intro app actions
  have reachable : app.Reachable := .start _ (Collection.reachable_ofInitial _ _)
  have present : 0 < app.chips.sequence.length := by decide
  have unfinished : ∀ action ∈ actions, action.endsDrag = false := by
    simp [actions, Action.endsDrag]
  obtain ⟨begun, during, effects, hbegun, hrun, -, ⟨trashed, settles, -, -, named⟩, -⟩ :=
    drag_is_transaction reachable rfl present ⟨.nan, .nan⟩ [] actions unfinished
  exact ⟨reachable, rfl, present, unfinished, begun, during, trashed, effects, hbegun, hrun,
    settles, named⟩

end App

end FilterChips

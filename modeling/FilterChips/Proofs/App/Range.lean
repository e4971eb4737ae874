/-
FilterChips.Proofs.App.Range — the placeholder of a drag is the index of a
chip.

Slots come from the indices of rectangles that the caller hands over, and
the shift by one across the dragged chip could take them past the end. It
does not: a chip after the dragged one has a slot one less than its index,
and only before the dragged chip is there one more, so a slot is at most
the last index or the dragged one (`Drag.placeholderFor_le`), whatever the
coordinates are.

A caller who brings no more rectangles than there are chips therefore gets
slots below the number of chips. This is a property of the session
(`Drag.Session.FitsIn`) that moves keep and that additions, which come
last, cannot break (`App.Step.fits`). Along such a run nothing is ever cut
down to the end: not by the preview, not by the commit, and not by the
frame.
-/
import FilterChips.Proofs.App.Transaction
import FilterChips.Proofs.Drag.Rows
import FilterChips.View.Frame

namespace FilterChips

namespace Drag

/-! ## §1 Slots -/

section Slots

variable {α : Type} [Coordinate α] {dragged count : Nat}

theorem slotBefore_le (dragged i : Nat) : slotBefore dragged i ≤ i := by
  unfold slotBefore
  split <;> omega

theorem slotAfter_le {i : Nat} (h : i < count) : slotAfter dragged i ≤ max dragged (count - 1) := by
  unfold slotAfter slotBefore
  split
  · omega
  · split <;> omega

theorem slotAlong_le {ms : List (Member α)} (indices : ∀ m ∈ ms, m.index < count) {slot : Nat}
    (h : slot ≤ max dragged (count - 1)) (x : α) :
    slotAlong dragged x slot ms ≤ max dragged (count - 1) := by
  induction ms generalizing slot with
  | nil => exact h
  | cons m ms ih =>
    obtain ⟨here, indices⟩ := List.forall_mem_cons.mp indices
    rw [slotAlong]
    split
    · exact ih indices h
    · split
      · exact ih indices (slotAfter_le here)
      · have before := slotBefore_le dragged m.index
        omega

theorem slotInRow?_le {row : Row α} (indices : ∀ m ∈ row.members, m.index < count) {x : α}
    {slot : Nat} (h : slotInRow? dragged x row = some slot) :
    slot ≤ max dragged (count - 1) := by
  by_cases none : row.members = []
  · simp [slotInRow?, none] at h
  · -- Only the row's own members are ever looked at, so all indices are below the count.
    have first := indices _ (List.head_mem none)
    have last := indices _ (List.getLast_mem none)
    rw [slotInRow?, List.head?_eq_some_head none, List.getLast?_eq_some_getLast none] at h
    change (if x < (row.members.head none).rect.midX then _ else _) = some slot at h
    split at h
    · cases h
      have before := slotBefore_le dragged (row.members.head none).index
      omega
    · cases h
      exact slotAlong_le indices (slotAfter_le last) x

/-- A slot is at most the last index of a rectangle, or that of the dragged
chip. -/
theorem placeholderFor_le {config : Config α} {start pointer : Point α}
    {rects : List (ChipRect α)} {slot : Nat}
    (h : placeholderFor config dragged start pointer rects = some slot) :
    slot ≤ max dragged (rects.length - 1) := by
  unfold placeholderFor at h
  split at h
  · cases h
  · obtain ⟨row, active, found⟩ := Option.bind_eq_some_iff.mp h
    refine slotInRow?_le (fun m hm => ?_) found
    have placed := getElem?_of_mem_row (List.mem_of_find?_eq_some active) hm
    exact (List.getElem?_eq_some_iff.mp placed).1

end Slots

/-! ## §2 Sessions -/

/-- A session over a number of chips: it drags one of them, its rectangles
are no more than they, and its placeholder is the index of one of them. -/
structure Session.FitsIn {α : Type} (count : Nat) (session : Session α) : Prop where
  index : session.index < count
  snapshot : session.snapshot.length ≤ count
  placeholder : session.placeholder < count

namespace Session.FitsIn

variable {α : Type} {session : Session α} {count : Nat}

/-- More chips leave it fitting. -/
theorem mono (h : session.FitsIn count) {count' : Nat} (more : count ≤ count') :
    session.FitsIn count' :=
  ⟨Nat.lt_of_lt_of_le h.index more, Nat.le_trans h.snapshot more,
    Nat.lt_of_lt_of_le h.placeholder more⟩

/-- So does a move over its own rectangles. -/
theorem moveTo [Coordinate α] (h : session.FitsIn count) (config : Config α) (pointer : Point α) :
    (session.moveTo config pointer session.snapshot).FitsIn count := by
  refine ⟨h.index, h.snapshot, ?_⟩
  show (placeholderFor config session.index session.start pointer session.snapshot).getD
    session.placeholder < count
  cases found : placeholderFor config session.index session.start pointer session.snapshot with
  | none => exact h.placeholder
  | some slot =>
    have le := placeholderFor_le found
    have index := h.index
    have snapshot := h.snapshot
    rw [Option.getD_some]
    omega

end Session.FitsIn

end Drag

namespace App

/-! ## §3 Runs -/

/-- The session of a drag, if there is one, fits in the sequence. -/
def Fits (app : App) : Prop :=
  ∀ session, app.drag.session = some session → session.FitsIn app.chips.sequence.length

/-- An action that begins a drag brings at most as many rectangles as there
are chips. -/
def BringsFitting (app : App) (action : Action) : Prop :=
  ∀ index pointer geometry, action = .beginDrag index pointer geometry →
    app.drag.session = none → index < app.chips.sequence.length →
      geometry.length ≤ app.chips.sequence.length

/-- Every action of a run that begins a drag does so. -/
def RunsFitting (app : App) (actions : List Action) : Prop :=
  ∀ before action after reached effects, actions = before ++ action :: after →
    app.run before = .ok (reached, effects) → reached.BringsFitting action

namespace RunsFitting

variable {app next : App} {action : Action} {effect : Effect} {actions rest : List Action}

theorem head (h : app.RunsFitting (action :: actions)) : app.BringsFitting action :=
  h [] action actions app [] rfl rfl

theorem tail (h : app.RunsFitting (action :: actions)) (step : Step app action next effect) :
    next.RunsFitting actions := by
  intro before later after reached effects split run
  refine h (action :: before) later after reached (effect :: effects) ?_ (run_cons step run)
  rw [split, List.cons_append]

theorem of_append (h : app.RunsFitting (actions ++ rest)) : app.RunsFitting actions := by
  intro before action after reached effects split
  refine h before action (after ++ rest) reached effects ?_
  rw [split, List.append_assoc, List.cons_append]

end RunsFitting

theorem fits_of_idle {app : App} (h : app.drag.session = none) : app.Fits := by
  intro session hs
  rw [h] at hs
  cases hs

/-- One action leaves the session fitting. -/
theorem Step.fits {app next : App} {action : Action} {effect : Effect}
    (step : Step app action next effect) (h : app.Fits) (brings : app.BringsFitting action) :
    next.Fits := by
  cases step with
  | blocked | refused | missed | notBegun | notDropped | notCancelled | quit => exact h
  | added added =>
    intro session hs
    rw [Collection.sequence_of_add added, List.length_append]
    exact (h session hs).mono (Nat.le_add_right _ _)
  | trashed idle | cleared idle => exact fits_of_idle idle
  | @begun index pointer geometry idle present =>
    intro session hs
    cases hs
    exact ⟨present, brings index pointer geometry rfl idle present, present⟩
  | moved =>
    intro later hlater
    cases hs : app.drag.session with
    | none => simp [Drag.Engine.dragTo, Drag.Engine.moveOver, hs] at hlater
    | some session =>
      cases (Drag.Engine.session_dragTo hs _).symm.trans hlater
      exact (h session hs).moveTo _ _
  | hovered =>
    intro later hlater
    cases hs : app.drag.session with
    | none => simp [Drag.Engine.hover, hs] at hlater
    | some session =>
      cases (Drag.Engine.session_hover hs _).symm.trans hlater
      exact ⟨(h session hs).index, (h session hs).snapshot, (h session hs).placeholder⟩
  | dropped => exact fits_of_idle (app.drag.session_release _)
  | cancelled => exact fits_of_idle app.drag.session_cancel
  | revalidated =>
    intro session hs
    rw [Collection.sequence_revalidate]
    exact h session hs

/-- So does a run. -/
theorem fits_of_run {app last : App} {actions : List Action} {effects : List Effect}
    (h : app.Fits) (brings : app.RunsFitting actions)
    (hr : app.run actions = .ok (last, effects)) : last.Fits := by
  induction actions generalizing app effects with
  | nil =>
    cases hr
    exact h
  | cons action actions ih =>
    obtain ⟨next, effect, rest, step, tail, -⟩ := run_cons_eq_ok_iff.mp hr
    exact ih (step.fits h brings.head) (brings.tail step) tail

/-! ## §4 Nothing is cut down -/

/-- Where the session fits, the chip goes to the placeholder itself. -/
theorem Fits.unclamped {app : App} (h : app.Fits) {session : Drag.Session Double}
    (hs : app.drag.session = some session) :
    ∃ grabbed, app.chips.sequence[session.index]? = some grabbed ∧
      let others := app.chips.sequence.eraseIdx session.index
      min session.placeholder others.length = session.placeholder ∧
      app.displaySequence = others.insertIdx session.placeholder grabbed ∧
      (app.chips.apply (app.drag.release false).1).sequence =
        others.insertIdx session.placeholder grabbed ∧
      Frame.lifted app = some ⟨session.placeholder, session.overDeleteTarget⟩ := by
  obtain ⟨present, -, placeholder⟩ := h session hs
  have inside : session.placeholder ≤ app.chips.sequence.length - 1 := by omega
  have moved : Collection.moveChip app.chips.sequence session.index session.placeholder =
      (app.chips.sequence.eraseIdx session.index).insertIdx session.placeholder
        app.chips.sequence[session.index] := by
    rw [Collection.moveChip_of_lt present, Nat.min_eq_left inside]
  have shown : app.displaySequence =
      Collection.moveChip app.chips.sequence session.index session.placeholder :=
    Drag.Engine.preview_of_session hs _
  refine ⟨_, List.getElem?_eq_getElem present, ?_, shown.trans moved, ?_, ?_⟩
  · rw [List.length_eraseIdx_of_lt present]
    exact Nat.min_eq_left inside
  · rw [Drag.Engine.release_of_session hs, Drag.Engine.apply_commitOf]
    exact moved
  · simp [Frame.lifted, hs, length_displaySequence, Nat.min_eq_left inside]

/-- **Every placeholder is in range**: whatever the settings, the start, the
pointer and the rectangles are, a slot that is found is at most the last
index of a rectangle, or that of the dragged chip. So let every drag that
a run begins bring at most as many rectangles as there are chips. Then at
any time during the run the placeholder of a session is the index of a
chip: the preview, the commit and the frame cut it down to the last index,
and get the placeholder itself. -/
theorem placeholder_stays_in_range :
    (∀ (config : Drag.Config Double) (dragged : Nat) (start pointer : Drag.Point Double)
      (rects : List (Drag.ChipRect Double)) (slot : Nat),
      Drag.placeholderFor config dragged start pointer rects = some slot →
        slot ≤ max dragged (rects.length - 1)) ∧
    ∀ (chips : Collection) (config : Drag.Config Double) (actions part : List Action),
      (start chips config).RunsFitting actions → part <+: actions →
        ∃ reached effects, (start chips config).run part = .ok (reached, effects) ∧
          ∀ session, reached.drag.session = some session →
            session.placeholder < reached.chips.sequence.length ∧
            ∃ grabbed, reached.chips.sequence[session.index]? = some grabbed ∧
              let others := reached.chips.sequence.eraseIdx session.index
              min session.placeholder others.length = session.placeholder ∧
              reached.displaySequence = others.insertIdx session.placeholder grabbed ∧
              (reached.chips.apply (reached.drag.release false).1).sequence =
                others.insertIdx session.placeholder grabbed ∧
              Frame.lifted reached =
                some ⟨session.placeholder, session.overDeleteTarget⟩ := by
  refine ⟨fun _ _ _ _ _ _ => Drag.placeholderFor_le, ?_⟩
  rintro chips config actions part brings ⟨rest, rfl⟩
  obtain ⟨reached, effects, hr⟩ := exists_run (start chips config) part
  have fits : reached.Fits := fits_of_run (fits_of_idle rfl) brings.of_append hr
  exact ⟨reached, effects, hr, fun session hs => ⟨(fits session hs).placeholder, fits.unclamped hs⟩⟩

/-- The first of three chips, dragged behind the last one: the placeholder
is the last index. -/
theorem placeholder_in_range_behind_last_chip :
    let app := start (.ofInitial .empty ["pizza", "AND", "sushi"]) .standard
    let rects : List (Drag.ChipRect Double) :=
      [.ofSize 0 0 40 32, .ofSize 48 0 40 32, .ofSize 96 0 40 32]
    let actions := [Action.beginDrag 0 ⟨20, 16⟩ rects, .pointerMoved ⟨150, 16⟩]
    app.RunsFitting actions ∧
      ∃ reached effects session, app.run actions = .ok (reached, effects) ∧
        reached.drag.session = some session ∧ session.placeholder = 2 ∧
        Frame.lifted reached = some ⟨2, false⟩ := by
  intro app rects actions
  have brings : app.RunsFitting actions := by
    intro before action after reached effects split run index pointer geometry begins _ _
    rcases before with _ | ⟨_, _ | ⟨_, _⟩⟩
    · obtain ⟨rfl, -⟩ := List.cons.inj split
      cases begins
      cases run
      decide
    · obtain ⟨-, split⟩ := List.cons.inj split
      obtain ⟨rfl, -⟩ := List.cons.inj split
      cases begins
    · simp [actions] at split
  obtain ⟨reached, effects, hr, inRange⟩ :=
    placeholder_stays_in_range.2 _ _ actions actions brings List.prefix_rfl
  have dragged : (app.run actions).toOption.bind (fun result => result.1.drag.session.map
      fun session => (session.placeholder, session.overDeleteTarget)) = some (2, false) := by
    decide +kernel
  rw [show app.run actions = _ from hr] at dragged
  obtain ⟨session, hs, values⟩ := Option.map_eq_some_iff.mp dragged
  obtain ⟨placeholder, hovering⟩ := Prod.mk.inj values
  obtain ⟨-, _, -, -, -, -, lifted⟩ := inRange session hs
  rw [placeholder, hovering] at lifted
  exact ⟨brings, reached, effects, session, hr, hs, placeholder, lifted⟩

end App

end FilterChips

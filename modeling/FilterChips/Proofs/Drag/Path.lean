/-
FilterChips.Proofs.Drag.Path — what is left of the moves of a drag.

Of all its moves a drag keeps one thing, the placeholder. A move sets it
to the slot it finds and leaves it alone where it finds none: near the
start, or off every row. So after a path of any length the placeholder is
that of the last move that found a slot, whatever the others were
(`placeholder_follow`).

A move near the start finds no slot, not even the chip's own. Bringing the
pointer back therefore undoes nothing: the drag stays as the moves before
left it (`placeholder_follow_concat`), and it is undone only if these had
left the chip in its place. §3 says when that is, and shows two chips that
stay swapped although the pointer has come back.
-/
import FilterChips.Proofs.Drag.Preview

namespace FilterChips

/-- The number is neither an infinity nor NaN. -/
def Double.IsFinite : Double → Prop
  | .finite .. => True
  | _ => False

instance : ∀ x : Double, Decidable x.IsFinite
  | .finite .. => inferInstanceAs (Decidable True)
  | .infinity _ => inferInstanceAs (Decidable False)
  | .nan => inferInstanceAs (Decidable False)

namespace Drag

/-! ## §1 A session along a path -/

section Path

variable {α : Type} [Coordinate α]

/-- The session after the pointer went along a path. -/
def Session.follow (session : Session α) (config : Config α) (path : List (Point α)) : Session α :=
  path.foldl (fun session pointer => session.moveTo config pointer session.snapshot) session

/-- The engine after the pointer went along a path. -/
def Engine.dragAlong (engine : Engine α) (path : List (Point α)) : Engine α :=
  path.foldl (fun engine pointer => (engine.dragTo pointer).2) engine

/-- The slot that a session finds for a position of the pointer. -/
def Session.slot? (session : Session α) (config : Config α) (pointer : Point α) : Option Nat :=
  placeholderFor config session.index session.start pointer session.snapshot

/-- Near its start a drag finds no slot. -/
theorem Session.slot?_of_isResting {session : Session α} {config : Config α} {pointer : Point α}
    (h : config.isResting session.start pointer = true) : session.slot? config pointer = none :=
  placeholderFor_of_isResting h _ _

/-- Moves leave the session its index, and of the slots that they find the
last one is its placeholder. -/
theorem Session.placeholder_follow (session : Session α) (config : Config α)
    (path : List (Point α)) :
    (session.follow config path).index = session.index ∧
      (session.follow config path).placeholder =
        (path.filterMap (session.slot? config)).getLastD session.placeholder := by
  induction path generalizing session with
  | nil => exact ⟨rfl, rfl⟩
  | cons pointer path ih =>
    -- A session finds the same slots after it has moved.
    obtain ⟨index, placeholder⟩ := ih (session.moveTo config pointer session.snapshot)
    refine ⟨index, placeholder.trans ?_⟩
    change (path.filterMap (session.slot? config)).getLastD
      ((session.slot? config pointer).getD session.placeholder) = _
    cases found : session.slot? config pointer with
    | none =>
      rw [List.filterMap_cons_none found]
      rfl
    | some slot =>
      rw [List.filterMap_cons_some found, List.getLastD_cons]
      rfl

/-- A move near the start is as good as none. -/
theorem Session.placeholder_follow_concat {session : Session α} {config : Config α}
    {last : Point α} (h : config.isResting session.start last = true) (path : List (Point α)) :
    (session.follow config (path ++ [last])).placeholder =
      (session.follow config path).placeholder := by
  have found : session.slot? config last = none := slot?_of_isResting h
  rw [(placeholder_follow ..).2, (placeholder_follow ..).2, List.filterMap_append]
  simp [found]

theorem Engine.dragAlong_of_session {engine : Engine α} {session : Session α}
    (h : engine.session = some session) (path : List (Point α)) :
    engine.dragAlong path = { engine with session := some (session.follow engine.config path) } := by
  induction path generalizing engine session with
  | nil => simp [dragAlong, Session.follow, ← h]
  | cons pointer path ih =>
    have moved : (engine.dragTo pointer).2 =
        { engine with
          session := some (session.moveTo engine.config pointer session.snapshot) } := by
      simp [dragTo, moveOver, h]
    calc engine.dragAlong (pointer :: path)
        = (engine.dragTo pointer).2.dragAlong path := rfl
      _ = _ := by rw [moved, ih rfl]; rfl

end Path

/-! ## §2 Near the start -/

theorem Config.isResting_iff (config : Config Double) (start pointer : Point Double) :
    config.isResting start pointer = true ↔ start.distance pointer < config.distanceThreshold := by
  simp [isResting, Coordinate.shorterThan, Point.distance]

theorem sub_self_of_isFinite {x : Double} (h : x.IsFinite) : x - x = 0 := by
  cases x with
  | nan => exact h.elim
  | infinity s => exact h.elim
  | finite s u hu =>
    have difference : Double.add (.finite s u hu) (.finite (!s) u hu) = .ofRatio false 0 1 := by
      simp [Double.add]
    exact difference.trans (by decide +kernel)

/-- A finite point is at no distance from itself, which is less than any
positive threshold. -/
theorem Point.distance_self {p : Point Double} (hx : p.x.IsFinite) (hy : p.y.IsFinite) :
    p.distance p = 0 := by
  have none : Double.hypot 0 0 = 0 := by decide +kernel
  rw [distance, sub_self_of_isFinite hx, sub_self_of_isFinite hy, none]

/-! ## §3 Back to the start -/

namespace Engine

/-- Dropping a chip beside the trash commits no change just when the
placeholder is in the chip's own place. -/
theorem commitOf_eq_unchanged_iff {α : Type} (session : Session α) :
    commitOf session false = .unchanged ↔ session.placeholder = session.index := by
  by_cases h : session.placeholder = session.index <;> simp [commitOf, h]

/-- **Coming back keeps the placeholder**: a path that ends near the start
leaves the drag as it was before its last move, in what is shown and in
what a release commits. The drag is undone just when the last slot found
on the way is the chip's own or there is none, and so whenever all of the
path is near the start. For a positive threshold the start itself, if it
is finite, is near. -/
theorem return_keeps_placeholder {engine : Engine Double} (idle : engine.session = none)
    (index : Nat) (start : Point Double) (rects : List (ChipRect Double))
    (path : List (Point Double)) (last : Point Double)
    (near : start.distance last < engine.config.distanceThreshold) :
    ∃ begun, engine.begin index start rects = .ok begun ∧
      let away := begun.dragAlong path
      let back := begun.dragAlong (path ++ [last])
      let slots := path.filterMap fun p => placeholderFor engine.config index start p rects
      (∀ chips : List Chip, back.preview chips = away.preview chips) ∧
        (back.release false).1 = (away.release false).1 ∧
        ((back.release false).1 = .unchanged ↔ slots.getLastD index = index) ∧
        (slots.getLastD index = index → ∀ chips : List Chip, back.preview chips = chips) ∧
        ((∀ p ∈ path, start.distance p < engine.config.distanceThreshold) →
          slots.getLastD index = index) ∧
        (0 < engine.config.distanceThreshold → start.x.IsFinite → start.y.IsFinite →
          start.distance start < engine.config.distanceThreshold) := by
  have resting := (Config.isResting_iff engine.config start last).mpr near
  refine ⟨_, begin_of_idle idle index start rects, ?_⟩
  intro away back slots
  let session : Session Double := ⟨index, index, start, start, false, rects⟩
  have hAway : away.session = some (session.follow engine.config path) := by
    rw [show away = _ from dragAlong_of_session rfl path]
  have hBack : back.session = some (session.follow engine.config (path ++ [last])) := by
    rw [show back = _ from dragAlong_of_session rfl (path ++ [last])]
  obtain ⟨indexAway, placeholderAway⟩ := session.placeholder_follow engine.config path
  have indexBack := (session.placeholder_follow engine.config (path ++ [last])).1
  have placeholderBack := session.placeholder_follow_concat resting path
  have unchanged : (back.release false).1 = .unchanged ↔ slots.getLastD index = index := by
    rw [release_of_session hBack, commitOf_eq_unchanged_iff, indexBack, placeholderBack,
      placeholderAway]
    exact Iff.rfl
  refine ⟨?_, ?_, unchanged, ?_, ?_, ?_⟩
  · intro chips
    rw [preview_of_session hBack, preview_of_session hAway, indexBack, indexAway,
      placeholderBack]
  · rw [release_of_session hBack, release_of_session hAway]
    simp [commitOf, indexBack, indexAway, placeholderBack]
  · intro ownSlot chips
    have place : (session.follow engine.config (path ++ [last])).placeholder = index := by
      rw [placeholderBack, placeholderAway]
      exact ownSlot
    rw [preview_of_session hBack, indexBack, place]
    exact Collection.moveChip_self chips index
  · intro allNear
    have noSlots : slots = [] := by
      rw [List.filterMap_eq_nil_iff]
      intro p hp
      have nearby := (Config.isResting_iff engine.config start p).mpr (allNear p hp)
      have found : session.slot? engine.config p = none := Session.slot?_of_isResting nearby
      exact found
    rw [noSlots]
    rfl
  · intro positive hx hy
    rw [Point.distance_self hx hy]
    exact positive

/-- Off the row and back to within two units of the start: no slot was
found, and the release commits no change. -/
theorem return_keeps_placeholder_off_the_row :
    let engine : Engine Double := idle .standard
    let rects : List (ChipRect Double) := [.ofSize 0 0 40 32, .ofSize 48 0 40 32]
    engine.session = none ∧
      Point.distance ⟨20, 16⟩ ⟨22, 16⟩ < engine.config.distanceThreshold ∧
      ∃ begun, engine.begin 0 ⟨20, 16⟩ rects = .ok begun ∧
        ((begun.dragAlong [⟨100, 300⟩, ⟨22, 16⟩]).release false).1 = .unchanged := by
  intro engine rects
  have near : Point.distance ⟨20, 16⟩ ⟨22, 16⟩ < engine.config.distanceThreshold := by
    decide +kernel
  have idle : engine.session = none := rfl
  obtain ⟨begun, hbegun, -, -, unchanged, -⟩ :=
    return_keeps_placeholder idle 0 ⟨20, 16⟩ rects [⟨100, 300⟩] ⟨22, 16⟩ near
  exact ⟨idle, near, begun, hbegun, unchanged.mpr (by decide +kernel)⟩

/-- Past the second of two chips and back to the very start: the first one
is still shown behind the second, and a release commits that. -/
theorem return_to_start_keeps_reorder :
    let engine : Engine Double := idle .standard
    let start : Point Double := ⟨20, 16⟩
    let rects : List (ChipRect Double) := [.ofSize 0 0 40 32, .ofSize 48 0 40 32]
    0 < engine.config.distanceThreshold ∧ start.x.IsFinite ∧ start.y.IsFinite ∧
      start.distance start < engine.config.distanceThreshold ∧
      ∃ begun, engine.begin 0 start rects = .ok begun ∧
        let back := begun.dragAlong [⟨100, 16⟩, start]
        back.preview [Chip.identifier "pizza", Chip.condition .and] =
          [Chip.condition .and, Chip.identifier "pizza"] ∧
        (back.release false).1 = .reorder 0 1 := by
  intro engine start rects
  exact ⟨by decide +kernel, by decide +kernel, by decide +kernel, by decide +kernel, _, rfl,
    by decide +kernel, by decide +kernel⟩

end Engine

end Drag

end FilterChips

/-
FilterChips.Drag.Engine — the drag gesture as a state machine.

An engine is idle or holds one session. Moves of the pointer set the session's placeholder, the slot
where the chip would be dropped; `preview` shows a sequence with the chip in that slot, and `release`
and `cancel` end the session with a commit. A session holds one capture of the pointer from its
beginning to its end.
-/
import FilterChips.Drag.Commit
import FilterChips.Drag.Placeholder
import FilterChips.Fault

namespace FilterChips

namespace Drag

/-- Counts the captures of the pointer that have not been given back. -/
structure PointerHub where
  active : Nat
  deriving DecidableEq

namespace PointerHub

/-- One more capture is out. -/
def acquire (hub : PointerHub) : PointerHub := ⟨hub.active + 1⟩

/-- A capture is given back. -/
def giveBack (hub : PointerHub) : PointerHub := ⟨hub.active - 1⟩

end PointerHub

/-- A drag under way. -/
structure Session (α : Type) where
  /-- The index of the dragged chip in the sequence. -/
  index : Nat
  /-- The slot where the chip would be dropped. -/
  placeholder : Nat
  start : Point α
  pointer : Point α
  overDeleteTarget : Bool
  /-- The rectangles of the chips when the drag began. -/
  snapshot : List (ChipRect α)
  deriving DecidableEq

/-- The drag gesture: its settings, the drag under way if any, and the pointer's captures. -/
structure Engine (α : Type) where
  config : Config α
  session : Option (Session α)
  hub : PointerHub
  deriving DecidableEq

variable {α : Type}

/-- The session after the pointer moved, with the placeholder looked up among some rectangles. -/
def Session.moveTo [Coordinate α] (session : Session α) (config : Config α) (pointer : Point α)
    (rects : List (ChipRect α)) : Session α :=
  { session with
    pointer
    placeholder := (placeholderFor config session.index session.start pointer rects).getD
      session.placeholder }

namespace Engine

/-- An engine without a drag. -/
def idle (config : Config α) : Engine α :=
  ⟨config, none, ⟨0⟩⟩

/-- Whether a drag is under way. -/
def isDragging (engine : Engine α) : Bool :=
  engine.session.isSome

/-- Whether a capture of the pointer is out. -/
def isCapturing (engine : Engine α) : Bool :=
  0 < engine.hub.active

/-- Begins to drag the chip at an index. A second drag is a fault of the caller. -/
def begin (engine : Engine α) (index : Nat) (pointer : Point α) (geometry : List (ChipRect α)) :
    Except Fault (Engine α) :=
  match engine.session with
  | some _ => .error .dragActive
  | none =>
    .ok { engine with
      session := some ⟨index, index, pointer, pointer, false, geometry⟩
      hub := engine.hub.acquire }

/-- Moves the pointer over given rectangles, and tells whether the placeholder changed. -/
def moveOver [Coordinate α] (engine : Engine α) (pointer : Point α)
    (geometry : List (ChipRect α)) : Bool × Engine α :=
  match engine.session with
  | none => (false, engine)
  | some session =>
    let moved := session.moveTo engine.config pointer geometry
    (moved.placeholder ≠ session.placeholder, { engine with session := some moved })

/-- Moves the pointer over the rectangles from the beginning of the drag. -/
def dragTo [Coordinate α] (engine : Engine α) (pointer : Point α) : Bool × Engine α :=
  engine.moveOver pointer ((engine.session.map Session.snapshot).getD [])

/-- Notes whether the pointer is over the delete target. -/
def hover (engine : Engine α) (onTarget : Bool) : Engine α :=
  { engine with session := engine.session.map ({ · with overDeleteTarget := onTarget }) }

/-- The sequence as it would be if the chip were dropped now. -/
def preview {β : Type} (engine : Engine α) (sequence : List β) : List β :=
  match engine.session with
  | none => sequence
  | some session =>
    match sequence[session.index]? with
    | none => sequence
    | some dragged =>
      let others := sequence.eraseIdx session.index
      others.take session.placeholder ++ dragged :: others.drop session.placeholder

/-- What releasing a session asks for. -/
def commitOf (session : Session α) (overDeleteTarget : Bool) : Commit :=
  if overDeleteTarget then .remove session.index
  else if session.placeholder ≠ session.index then .reorder session.index session.placeholder
  else .unchanged

/-- Ends the drag by dropping the chip. -/
def release (engine : Engine α) (overDeleteTarget : Bool) : Commit × Engine α :=
  match engine.session with
  | none => (.unchanged, engine)
  | some session =>
    (commitOf session overDeleteTarget,
      { engine with session := none, hub := engine.hub.giveBack })

/-- Ends the drag without a change. -/
def cancel (engine : Engine α) : Commit × Engine α :=
  match engine.session with
  | none => (.unchanged, engine)
  | some _ => (.cancelled, { engine with session := none, hub := engine.hub.giveBack })

/-- Takes a further capture of the pointer. -/
def acquire (engine : Engine α) : Engine α :=
  { engine with hub := engine.hub.acquire }

/-- Gives back a further capture of the pointer. -/
def giveBack (engine : Engine α) : Engine α :=
  { engine with hub := engine.hub.giveBack }

/-! What the operations do without and with a drag. -/

theorem isDragging_eq_false_iff (engine : Engine α) :
    engine.isDragging = false ↔ engine.session = none := by
  simp [isDragging]

theorem begin_of_idle {engine : Engine α} (h : engine.session = none) (index : Nat)
    (pointer : Point α) (geometry : List (ChipRect α)) :
    engine.begin index pointer geometry =
      .ok { engine with
        session := some ⟨index, index, pointer, pointer, false, geometry⟩
        hub := engine.hub.acquire } := by
  simp [Engine.begin, h]

theorem session_dragTo [Coordinate α] {engine : Engine α} {session : Session α}
    (h : engine.session = some session) (pointer : Point α) :
    (engine.dragTo pointer).2.session =
      some (session.moveTo engine.config pointer session.snapshot) := by
  simp [dragTo, moveOver, h]

theorem session_hover {engine : Engine α} {session : Session α}
    (h : engine.session = some session) (onTarget : Bool) :
    (engine.hover onTarget).session = some { session with overDeleteTarget := onTarget } := by
  simp [hover, h]

theorem preview_of_idle {engine : Engine α} (h : engine.session = none) {β : Type}
    (sequence : List β) : engine.preview sequence = sequence := by
  simp [preview, h]

theorem release_of_idle {engine : Engine α} (h : engine.session = none) (onTarget : Bool) :
    engine.release onTarget = (.unchanged, engine) := by
  simp [release, h]

theorem release_of_session {engine : Engine α} {session : Session α}
    (h : engine.session = some session) (onTarget : Bool) :
    engine.release onTarget =
      (commitOf session onTarget,
        { engine with session := none, hub := engine.hub.giveBack }) := by
  simp [release, h]

theorem cancel_of_session {engine : Engine α} {session : Session α}
    (h : engine.session = some session) :
    engine.cancel =
      (.cancelled, { engine with session := none, hub := engine.hub.giveBack }) := by
  simp [cancel, h]

/-! Whatever ends a drag leaves none. -/

theorem session_release (engine : Engine α) (onTarget : Bool) :
    (engine.release onTarget).2.session = none := by
  cases hs : engine.session with
  | none => rw [release_of_idle hs, hs]
  | some session => rw [release_of_session hs]

theorem session_cancel (engine : Engine α) : engine.cancel.2.session = none := by
  cases hs : engine.session with
  | none => simp [cancel, hs]
  | some session => rw [cancel_of_session hs]

end Engine

end Drag

end FilterChips

/-
FilterChips.Proofs.Drag.Calls — what a drag remembers of the calls during
it.

While a drag lasts its engine is told where the pointer is, over
rectangles that come with the call or over those from the beginning of the
drag, and whether the pointer is over the delete target. Of any number of
such calls, in any order, little is left: the last pointer, the last word
about the delete target, and the slot that the last decisive call found. A
call is decisive if its pointer is no closer to the start than the
threshold and at the height of a row.

`Session.Remembers` says so of a session and the calls since it began. A
decisive call always finds a slot (`Call.isDecisive_eq_isSome_slot?`), and
the slot becomes the placeholder whatever the placeholder was; every other
call leaves it alone. So one more call keeps the invariant
(`Remembers.concat`), and so does every run (`Engine.exists_afterAll`).
-/
import FilterChips.Proofs.Drag.Path
import FilterChips.Proofs.Drag.Rows

namespace FilterChips

namespace Drag

/-! ## §1 Calls during a drag -/

/-- What an engine can be told while a drag lasts. -/
inductive Call (α : Type) where
  /-- The pointer moved, over given rectangles. -/
  | moveOver (pointer : Point α) (geometry : List (ChipRect α))
  /-- The pointer moved, over the rectangles from the beginning of the drag. -/
  | dragTo (pointer : Point α)
  /-- The pointer entered or left the delete target. -/
  | hover (onTarget : Bool)
  deriving DecidableEq

variable {α : Type}

namespace Call

/-- The pointer that a call gives. -/
def pointer? : Call α → Option (Point α)
  | .moveOver pointer _ => some pointer
  | .dragTo pointer => some pointer
  | .hover _ => none

/-- What a call says about the delete target. -/
def onTarget? : Call α → Option Bool
  | .hover onTarget => some onTarget
  | _ => none

/-- The pointer of a move and the rectangles it goes over, in a drag that
began over `snapshot`. -/
def move? (snapshot : List (ChipRect α)) : Call α → Option (Point α × List (ChipRect α))
  | .moveOver pointer geometry => some (pointer, geometry)
  | .dragTo pointer => some (pointer, snapshot)
  | .hover _ => none

/-- The slot that a call finds, in a drag of the chip at an index. -/
def slot? [Coordinate α] (config : Config α) (index : Nat) (start : Point α)
    (snapshot : List (ChipRect α)) (call : Call α) : Option Nat :=
  (call.move? snapshot).bind fun move => placeholderFor config index start move.1 move.2

/-- Whether a call gives a pointer that is no closer to the start than the
threshold and at the height of a row of the rectangles it goes over. -/
def isDecisive (config : Config Double) (start : Point Double)
    (snapshot : List (ChipRect Double)) (call : Call Double) : Bool :=
  (call.move? snapshot).any fun move =>
    decide (¬ start.distance move.1 < config.distanceThreshold) &&
      (groupRows move.2).any (·.spans config.rowTolerance move.1.y)

/-- The decisive calls are those that find a slot. -/
theorem isDecisive_eq_isSome_slot? (config : Config Double) (index : Nat) (start : Point Double)
    (snapshot : List (ChipRect Double)) (call : Call Double) :
    call.isDecisive config start snapshot = (call.slot? config index start snapshot).isSome := by
  unfold isDecisive slot?
  cases call.move? snapshot with
  | none => rfl
  | some move =>
    rw [Bool.eq_iff_iff, Option.bind_some, isSome_placeholderFor_iff, Bool.eq_false_iff, Ne,
      Config.isResting_iff]
    simp

end Call

/-! ## §2 An engine after some calls -/

variable [Coordinate α]

/-- The session after a move over its own rectangles, which it gives away
for the time of the move and then takes back. -/
def Session.moveOverOwn (session : Session α) (config : Config α) (pointer : Point α) :
    Session α :=
  let without : Session α := { session with snapshot := [] }
  { without.moveTo config pointer session.snapshot with snapshot := session.snapshot }

namespace Engine

/-- The engine after a call. -/
def after (engine : Engine α) : Call α → Engine α
  | .moveOver pointer geometry => (engine.moveOver pointer geometry).2
  | .dragTo pointer => (engine.dragTo pointer).2
  | .hover onTarget => engine.hover onTarget

/-- The engine after some calls. -/
def afterAll (engine : Engine α) (calls : List (Call α)) : Engine α :=
  calls.foldl after engine

/-- A call sets what it has something to say about. -/
theorem after_of_session {engine : Engine α} {session : Session α}
    (h : engine.session = some session) (call : Call α) :
    engine.after call =
      { engine with
        session := some { session with
          pointer := call.pointer?.getD session.pointer
          overDeleteTarget := call.onTarget?.getD session.overDeleteTarget
          placeholder :=
            (call.slot? engine.config session.index session.start session.snapshot).getD
              session.placeholder } } := by
  cases call with
  | moveOver pointer geometry =>
    simp only [after, moveOver, h]
    rfl
  | dragTo pointer =>
    simp only [after, dragTo, moveOver, h]
    rfl
  | hover onTarget =>
    simp only [after, hover, h]
    rfl

/-- A move tells whether the placeholder changed. -/
theorem moveOver_of_session {engine : Engine α} {session : Session α}
    (h : engine.session = some session) (pointer : Point α) (geometry : List (ChipRect α)) :
    ∃ later, (engine.moveOver pointer geometry).2.session = some later ∧
      ((engine.moveOver pointer geometry).1 = true ↔ later.placeholder ≠ session.placeholder) := by
  refine ⟨session.moveTo engine.config pointer geometry, ?_, ?_⟩
  · simp [moveOver, h]
  · simp [moveOver, h]

/-- While it moves over its own rectangles a session does without them. -/
theorem dragTo_of_session {engine : Engine α} {session : Session α}
    (h : engine.session = some session) (pointer : Point α) :
    (engine.dragTo pointer).2.session = some (session.moveOverOwn engine.config pointer) := by
  rw [session_dragTo h]
  rfl

/-- A move that is repeated at once changes nothing more. -/
theorem moveOver_again (engine : Engine α) (pointer : Point α) (geometry : List (ChipRect α)) :
    (engine.moveOver pointer geometry).2.moveOver pointer geometry =
      (false, (engine.moveOver pointer geometry).2) := by
  cases h : engine.session with
  | none => simp [moveOver, h]
  | some session =>
    have same : (session.moveTo engine.config pointer geometry).moveTo engine.config pointer
        geometry = session.moveTo engine.config pointer geometry := by
      unfold Session.moveTo
      cases placeholderFor engine.config session.index session.start pointer geometry <;> rfl
    simp [moveOver, h, same]

end Engine

/-! ## §3 What is left of the calls -/

theorem getLastD_filterMap_concat {β γ : Type} (f : β → Option γ) (l : List β) (b : β) (c : γ) :
    ((l ++ [b]).filterMap f).getLastD c = (f b).getD ((l.filterMap f).getLastD c) := by
  cases h : f b <;> simp [h]

/-- What a session holds after some calls, in a drag of the chip at an
index that began at `origin` over some rectangles. -/
structure Session.Remembers (config : Config Double) (dragged : Nat) (origin : Point Double)
    (rects : List (ChipRect Double)) (calls : List (Call Double)) (session : Session Double) :
    Prop where
  index : session.index = dragged
  start : session.start = origin
  snapshot : session.snapshot = rects
  /-- The pointer is the last one given. -/
  pointer : session.pointer = (calls.filterMap Call.pointer?).getLastD origin
  /-- The last word about the delete target counts. -/
  overDeleteTarget : session.overDeleteTarget = (calls.filterMap Call.onTarget?).getLastD false
  /-- Without a decisive call the placeholder is the chip's own place. -/
  placeholder_of_none : (calls.filter (Call.isDecisive config origin rects)).getLast? = none →
    session.placeholder = dragged
  /-- Otherwise it is the slot that the last decisive call found. -/
  placeholder_of_some : ∀ call,
    (calls.filter (Call.isDecisive config origin rects)).getLast? = some call →
      call.slot? config dragged origin rects = some session.placeholder

section Remembers

variable {config : Config Double} {dragged : Nat} {origin : Point Double}
  {rects : List (ChipRect Double)}

/-- A session that has just begun. -/
theorem Session.remembers_nil :
    Session.Remembers config dragged origin rects []
      ⟨dragged, dragged, origin, origin, false, rects⟩ :=
  ⟨rfl, rfl, rfl, rfl, rfl, fun _ => rfl, by simp⟩

/-- One more call. -/
theorem Session.Remembers.concat {calls : List (Call Double)} {session : Session Double}
    (h : session.Remembers config dragged origin rects calls) (call : Call Double) :
    Session.Remembers config dragged origin rects (calls ++ [call])
      { session with
        pointer := call.pointer?.getD session.pointer
        overDeleteTarget := call.onTarget?.getD session.overDeleteTarget
        placeholder :=
          (call.slot? config session.index session.start session.snapshot).getD
            session.placeholder } := by
  have decisive := call.isDecisive_eq_isSome_slot? config dragged origin rects
  rw [h.index, h.start, h.snapshot]
  have pointer : call.pointer?.getD session.pointer =
      ((calls ++ [call]).filterMap Call.pointer?).getLastD origin := by
    rw [getLastD_filterMap_concat, ← h.pointer]
  have onTarget : call.onTarget?.getD session.overDeleteTarget =
      ((calls ++ [call]).filterMap Call.onTarget?).getLastD false := by
    rw [getLastD_filterMap_concat, ← h.overDeleteTarget]
  -- The placeholder changes just where the list of decisive calls does.
  cases found : call.slot? config dragged origin rects with
  | none =>
    have kept : (calls ++ [call]).filter (Call.isDecisive config origin rects) =
        calls.filter (Call.isDecisive config origin rects) := by
      simp [decisive, found]
    refine ⟨rfl, rfl, rfl, pointer, onTarget, ?_, ?_⟩
    · rw [kept]
      exact h.placeholder_of_none
    · rw [kept]
      exact h.placeholder_of_some
  | some slot =>
    have added : (calls ++ [call]).filter (Call.isDecisive config origin rects) =
        calls.filter (Call.isDecisive config origin rects) ++ [call] := by
      simp [decisive, found]
    refine ⟨rfl, rfl, rfl, pointer, onTarget, ?_, ?_⟩
    · simp [added]
    · rw [added, List.getLast?_concat]
      rintro _ ⟨⟩
      exact found

end Remembers

namespace Engine

/-- A run of calls keeps the drag and remembers what it has to. -/
theorem exists_afterAll {engine : Engine Double} {dragged : Nat} {origin : Point Double}
    {rects : List (ChipRect Double)}
    (h : engine.session = some ⟨dragged, dragged, origin, origin, false, rects⟩)
    (calls : List (Call Double)) :
    ∃ session, engine.afterAll calls = { engine with session := some session } ∧
      session.Remembers engine.config dragged origin rects calls := by
  induction calls using List.reverseRecOn with
  | nil => exact ⟨_, by simp [afterAll, ← h], Session.remembers_nil⟩
  | append_singleton calls call ih =>
    obtain ⟨session, reached, remembers⟩ := ih
    refine ⟨_, ?_, remembers.concat call⟩
    calc engine.afterAll (calls ++ [call])
        = (engine.afterAll calls).after call := by simp [afterAll]
      _ = _ := by
        rw [reached]
        exact after_of_session rfl call

/-- **A drag remembers its last decisive call**: from any engine without a
drag one begins, and after any calls the engine has a session that has
kept the index, the start and the rectangles, and that holds of the calls
the last pointer, the last word about the delete target, and the slot that
the last decisive call found, or the chip's own place if none was
decisive. At any time a move then tells whether the placeholder changed,
and changes nothing more when it is repeated; and a move over the
rectangles from the beginning, which the session gives away meanwhile, is
the move over them when they come with the call. -/
theorem remembers_last_decisive_call {engine : Engine Double} (idle : engine.session = none)
    (index : Nat) (start : Point Double) (rects : List (ChipRect Double))
    (calls : List (Call Double)) :
    ∃ begun session, engine.begin index start rects = .ok begun ∧
      begun.afterAll calls = { begun with session := some session } ∧
      session.Remembers engine.config index start rects calls ∧
      ∀ (pointer : Point Double) (geometry : List (ChipRect Double)),
        let reached := begun.afterAll calls
        let moved := (reached.moveOver pointer geometry).2
        let dragged := (reached.dragTo pointer).2
        (∃ later, moved.session = some later ∧
          ((reached.moveOver pointer geometry).1 = true ↔
            later.placeholder ≠ session.placeholder)) ∧
        moved.moveOver pointer geometry = (false, moved) ∧
        reached.dragTo pointer = reached.moveOver pointer rects ∧
        dragged.session = some (session.moveOverOwn engine.config pointer) ∧
        dragged.dragTo pointer = (false, dragged) := by
  obtain ⟨begun, hbegun, config, fresh⟩ : ∃ begun, engine.begin index start rects = .ok begun ∧
      begun.config = engine.config ∧
      begun.session = some ⟨index, index, start, start, false, rects⟩ :=
    ⟨_, begin_of_idle idle index start rects, rfl, rfl⟩
  obtain ⟨session, hreached, remembers⟩ := exists_afterAll fresh calls
  rw [config] at remembers
  refine ⟨begun, session, hbegun, hreached, remembers, ?_⟩
  intro pointer geometry reached moved dragged
  have hs : reached.session = some session := by rw [show reached = _ from hreached]
  have same : reached.dragTo pointer = reached.moveOver pointer rects := by
    simp [dragTo, hs, remembers.snapshot]
  have sameConfig : reached.config = engine.config := by
    rw [show reached = _ from hreached]
    exact config
  have own : dragged.session = some (session.moveOverOwn engine.config pointer) := by
    rw [← sameConfig]
    exact dragTo_of_session hs pointer
  refine ⟨moveOver_of_session hs pointer geometry, moveOver_again reached pointer geometry, same,
    own, ?_⟩
  have kept : (session.moveOverOwn engine.config pointer).snapshot = rects := remembers.snapshot
  have again : dragged.dragTo pointer = dragged.moveOver pointer rects := by
    simp [dragTo, own, kept]
  rw [again, show dragged = (reached.moveOver pointer rects).2 from congrArg Prod.snd same]
  exact moveOver_again reached pointer rects

/-- Over other rectangles the second slot is found, and neither a move off
the row nor one near the start makes up for it. -/
theorem remembers_slot_among_other_rectangles :
    let engine : Engine Double := idle .standard
    let rects : List (ChipRect Double) := [.ofSize 0 0 40 32, .ofSize 48 0 40 32, .ofSize 96 0 40 32]
    let spread : List (ChipRect Double) :=
      [.ofSize 0 0 40 32, .ofSize 48 0 40 32, .ofSize 396 0 40 32]
    let calls : List (Call Double) :=
      [.dragTo ⟨150, 16⟩, .moveOver ⟨150, 16⟩ spread, .hover true, .dragTo ⟨150, 300⟩,
        .dragTo ⟨22, 16⟩]
    engine.session = none ∧
      ∃ begun session, engine.begin 0 ⟨20, 16⟩ rects = .ok begun ∧
        (begun.afterAll calls).session = some session ∧ session.placeholder = 1 ∧
        session.pointer = ⟨22, 16⟩ ∧ session.overDeleteTarget = true := by
  intro engine rects spread calls
  have idle : engine.session = none := rfl
  obtain ⟨begun, session, hbegun, reached, remembers, -⟩ :=
    remembers_last_decisive_call idle 0 ⟨20, 16⟩ rects calls
  have last := remembers.placeholder_of_some (.moveOver ⟨150, 16⟩ spread) (by decide +kernel)
  have second : Call.slot? engine.config 0 ⟨20, 16⟩ rects (.moveOver ⟨150, 16⟩ spread) = some 1 := by
    decide +kernel
  refine ⟨idle, begun, session, hbegun, by rw [reached], ?_, remembers.pointer,
    remembers.overDeleteTarget⟩
  exact Option.some.inj (last.symm.trans second)

end Engine

end Drag

end FilterChips

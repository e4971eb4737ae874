/-
FilterChips.Proofs.Drag.Captures — the captures of the pointer are counted
exactly.

The hub knows the captures that are out by their number alone, and gives
one back by taking one off, which at zero does nothing. So a capture given
back twice would not be noticed at once. Here the other side is written
down: the engine together with the captures that were taken from its hub
besides that of a session, each under a number of its own, and everything
that can be done with the two, in any order.

The count is that of the captures kept and the one of the session, if
there is one (`Custody.Counted`). One use of the engine keeps it so
(`Counted.use`): a session takes one capture where it begins and gives one
back where it ends, a second drag is refused before it takes any, and a
capture that is kept is let go once. Hence there is always one to take off.
-/
import FilterChips.Proofs.Drag.Calls

namespace FilterChips

namespace Drag

variable {α : Type}

/-! ## §1 What can be done with an engine -/

/-- What can be done with an engine and captures of its pointer. -/
inductive Use (α : Type) where
  | begin (index : Nat) (pointer : Point α) (geometry : List (ChipRect α))
  | call (call : Call α)
  | release (overDeleteTarget : Bool)
  | cancel
  /-- Takes a further capture and keeps it. -/
  | take
  /-- Lets go of the capture with a number, if it is still kept. -/
  | letGo (number : Nat)

/-- An engine and the captures that are kept besides that of its session. -/
structure Custody (α : Type) where
  engine : Engine α
  /-- The numbers of the captures that are kept. -/
  kept : List Nat
  /-- The number of the next capture. -/
  next : Nat

namespace Custody

/-- A new engine, and nothing kept. -/
def start (config : Config α) : Custody α :=
  ⟨.idle config, [], 0⟩

variable [Coordinate α]

/-- What comes of a use. A drag that is refused leaves everything as it
was. -/
def use (custody : Custody α) : Use α → Custody α
  | .begin index pointer geometry =>
    match custody.engine.begin index pointer geometry with
    | .ok engine => { custody with engine }
    | .error _ => custody
  | .call call => { custody with engine := custody.engine.after call }
  | .release onTarget => { custody with engine := (custody.engine.release onTarget).2 }
  | .cancel => { custody with engine := custody.engine.cancel.2 }
  | .take =>
    { engine := custody.engine.acquire
      kept := custody.kept ++ [custody.next]
      next := custody.next + 1 }
  | .letGo number =>
    if number ∈ custody.kept then
      { custody with engine := custody.engine.giveBack, kept := custody.kept.erase number }
    else custody

/-- What comes of some uses. -/
def useAll (custody : Custody α) (uses : List (Use α)) : Custody α :=
  uses.foldl use custody

/-- Whether a use gives a capture back. -/
def givesBack (custody : Custody α) : Use α → Bool
  | .release _ => custody.engine.isDragging
  | .cancel => custody.engine.isDragging
  | .letGo number => number ∈ custody.kept
  | _ => false

end Custody

/-! ## §2 The engine alone -/

namespace Engine

/-- The number of captures that the session holds. -/
def ownCaptures (engine : Engine α) : Nat :=
  if engine.isDragging then 1 else 0

theorem ownCaptures_of_idle {engine : Engine α} (h : engine.session = none) :
    engine.ownCaptures = 0 := by
  simp [ownCaptures, isDragging, h]

theorem ownCaptures_of_session {engine : Engine α} {session : Session α}
    (h : engine.session = some session) : engine.ownCaptures = 1 := by
  simp [ownCaptures, isDragging, h]

/-- What becomes of an engine takes captures from its hub, or gives them
back, just as the session comes to hold more or fewer. -/
def Balances (engine next : Engine α) : Prop :=
  next.hub.active + engine.ownCaptures = engine.hub.active + next.ownCaptures

theorem balances_begin {engine begun : Engine α} {index : Nat} {pointer : Point α}
    {geometry : List (ChipRect α)} (h : engine.begin index pointer geometry = .ok begun) :
    engine.Balances begun := by
  cases hs : engine.session with
  | none =>
    rw [begin_of_idle hs] at h
    cases h
    unfold Balances
    rw [ownCaptures_of_idle hs, ownCaptures_of_session rfl]
    rfl
  | some session => simp [Engine.begin, hs] at h

/-- A second drag is refused. -/
theorem begin_of_isDragging {engine : Engine α} (h : engine.isDragging = true) (index : Nat)
    (pointer : Point α) (geometry : List (ChipRect α)) :
    engine.begin index pointer geometry = .error .dragActive := by
  obtain ⟨session, hs⟩ := Option.isSome_iff_exists.mp h
  simp [Engine.begin, hs]

/-- Calls during a drag have nothing to do with captures. -/
theorem balances_after [Coordinate α] (engine : Engine α) (call : Call α) :
    engine.Balances (engine.after call) := by
  unfold Balances
  obtain ⟨config, _ | session, hub⟩ := engine
  · cases call <;> rfl
  · rw [after_of_session rfl, ownCaptures_of_session rfl, ownCaptures_of_session rfl]

/-- A session that ends gives back one capture, if the hub has counted it. -/
theorem balances_without_session {engine : Engine α} {session : Session α}
    (h : engine.session = some session) (counted : engine.ownCaptures ≤ engine.hub.active) :
    engine.Balances { engine with session := none, hub := engine.hub.giveBack } := by
  unfold Balances
  rw [ownCaptures_of_session h] at counted
  rw [ownCaptures_of_session h, ownCaptures_of_idle rfl]
  exact Nat.sub_add_cancel counted

theorem balances_release {engine : Engine α} (counted : engine.ownCaptures ≤ engine.hub.active)
    (onTarget : Bool) : engine.Balances (engine.release onTarget).2 := by
  cases hs : engine.session with
  | none =>
    rw [release_of_idle hs]
    exact rfl
  | some session =>
    rw [release_of_session hs]
    exact balances_without_session hs counted

theorem balances_cancel {engine : Engine α} (counted : engine.ownCaptures ≤ engine.hub.active) :
    engine.Balances engine.cancel.2 := by
  cases hs : engine.session with
  | none =>
    rw [cancel, hs]
    exact rfl
  | some session =>
    rw [cancel_of_session hs]
    exact balances_without_session hs counted

/-- The end of a drag that balances takes one off the count. -/
theorem Balances.active_of_ended {engine next : Engine α} (h : engine.Balances next)
    (dragging : engine.isDragging = true) (ended : next.session = none) :
    next.hub.active + 1 = engine.hub.active := by
  obtain ⟨session, hs⟩ := Option.isSome_iff_exists.mp dragging
  rw [Balances, ownCaptures_of_session hs, ownCaptures_of_idle ended] at h
  exact h

end Engine

/-! ## §3 The count -/

namespace Custody

/-- The captures that are kept are different ones, taken before the next
one, and together with that of the session they are those that the hub
counts. -/
structure Counted (custody : Custody α) : Prop where
  nodup : custody.kept.Nodup
  lt_next : ∀ number ∈ custody.kept, number < custody.next
  active : custody.engine.hub.active = custody.kept.length + custody.engine.ownCaptures

theorem counted_start (config : Config α) : (start config).Counted :=
  ⟨.nil, by simp [start], rfl⟩

/-- What balances keeps the count. -/
theorem Counted.of_balances {custody : Custody α} (h : custody.Counted) {engine : Engine α}
    (balances : custody.engine.Balances engine) : Counted { custody with engine } := by
  refine ⟨h.nodup, h.lt_next, ?_⟩
  have active := h.active
  unfold Engine.Balances at balances
  show engine.hub.active = custody.kept.length + engine.ownCaptures
  omega

variable [Coordinate α]

theorem use_begin_of_ok {custody : Custody α} {index : Nat} {pointer : Point α}
    {geometry : List (ChipRect α)} {begun : Engine α}
    (h : custody.engine.begin index pointer geometry = .ok begun) :
    custody.use (.begin index pointer geometry) = { custody with engine := begun } := by
  simp [use, h]

theorem use_begin_of_error {custody : Custody α} {index : Nat} {pointer : Point α}
    {geometry : List (ChipRect α)} {fault : Fault}
    (h : custody.engine.begin index pointer geometry = .error fault) :
    custody.use (.begin index pointer geometry) = custody := by
  simp [use, h]

theorem use_letGo_of_mem {custody : Custody α} {number : Nat} (h : number ∈ custody.kept) :
    custody.use (.letGo number) =
      { custody with
        engine := custody.engine.giveBack
        kept := custody.kept.erase number } := by
  simp [use, h]

theorem use_letGo_of_not_mem {custody : Custody α} {number : Nat} (h : number ∉ custody.kept) :
    custody.use (.letGo number) = custody := by
  simp [use, h]

/-- One use keeps the count. -/
theorem Counted.use {custody : Custody α} (h : custody.Counted) (use : Use α) :
    (custody.use use).Counted := by
  have active := h.active
  have counted : custody.engine.ownCaptures ≤ custody.engine.hub.active := by omega
  cases use with
  | begin index pointer geometry =>
    cases began : custody.engine.begin index pointer geometry with
    | error fault =>
      rw [use_begin_of_error began]
      exact h
    | ok begun =>
      rw [use_begin_of_ok began]
      exact h.of_balances (Engine.balances_begin began)
  | call call => exact h.of_balances (custody.engine.balances_after call)
  | release onTarget => exact h.of_balances (Engine.balances_release counted onTarget)
  | cancel => exact h.of_balances (Engine.balances_cancel counted)
  | take =>
    -- Were the number kept already, letting go of it would take one off where two are out.
    have fresh : custody.next ∉ custody.kept :=
      fun kept => Nat.lt_irrefl _ (h.lt_next _ kept)
    refine ⟨?_, ?_, ?_⟩
    · refine List.nodup_append.mpr ⟨h.nodup, List.pairwise_singleton .., ?_⟩
      intro number kept new hnew same
      rw [same, List.mem_singleton.mp hnew] at kept
      exact fresh kept
    · show ∀ number ∈ custody.kept ++ [custody.next], number < custody.next + 1
      intro number hnumber
      rcases List.mem_append.mp hnumber with kept | new
      · exact Nat.lt_succ_of_lt (h.lt_next number kept)
      · rw [List.mem_singleton.mp new]
        exact Nat.lt_succ_self _
    · show custody.engine.hub.active + 1 =
        (custody.kept ++ [custody.next]).length + custody.engine.ownCaptures
      rw [active, List.length_append, List.length_singleton]
      omega
  | letGo number =>
    by_cases kept : number ∈ custody.kept
    · rw [use_letGo_of_mem kept]
      refine ⟨h.nodup.erase number, fun m hm => h.lt_next m (List.mem_of_mem_erase hm), ?_⟩
      show custody.engine.hub.active - 1 =
        (custody.kept.erase number).length + custody.engine.ownCaptures
      have some := List.length_pos_of_mem kept
      rw [active, List.length_erase_of_mem kept]
      omega
    · rw [use_letGo_of_not_mem kept]
      exact h

/-- So do all. -/
theorem Counted.useAll {custody : Custody α} (h : custody.Counted) (uses : List (Use α)) :
    (custody.useAll uses).Counted := by
  induction uses generalizing custody with
  | nil => exact h
  | cons use uses ih => exact ih (h.use use)

/-- What is given back has been counted, once. -/
theorem Counted.active_of_givesBack {custody : Custody α} (h : custody.Counted) {use : Use α}
    (gives : custody.givesBack use = true) :
    (custody.use use).engine.hub.active + 1 = custody.engine.hub.active := by
  have active := h.active
  have counted : custody.engine.ownCaptures ≤ custody.engine.hub.active := by omega
  cases use with
  | release onTarget =>
    have balances := Engine.balances_release counted onTarget
    exact balances.active_of_ended gives (custody.engine.session_release onTarget)
  | cancel =>
    have balances := Engine.balances_cancel counted
    exact balances.active_of_ended gives custody.engine.session_cancel
  | letGo number =>
    have kept : number ∈ custody.kept := of_decide_eq_true gives
    have some := List.length_pos_of_mem kept
    rw [use_letGo_of_mem kept]
    show custody.engine.hub.active - 1 + 1 = custody.engine.hub.active
    omega
  | begin | call | take => cases gives

/-- **Captures are counted exactly**: however a new engine is used, and
whatever captures are taken from its hub besides and let go of, in any
order, the hub counts the captures that are kept and one for the session,
if there is one. A use that gives a capture back takes exactly one off a
count that is not zero; the end of a drag is one, and leaves the captures
that are kept alone. A drag that begins over another one is refused and
changes nothing. With nothing kept, a capture is out just while a drag is
under way. -/
theorem captures_counted (config : Config α) (uses : List (Use α)) :
    let custody := (start config).useAll uses
    custody.kept.Nodup ∧
      custody.engine.hub.active =
        custody.kept.length + (if custody.engine.isDragging then 1 else 0) ∧
      (∀ use, custody.givesBack use = true →
        (custody.use use).engine.hub.active + 1 = custody.engine.hub.active) ∧
      (∀ use, use = .cancel ∨ (∃ onTarget, use = .release onTarget) →
        custody.engine.isDragging = true →
          custody.givesBack use = true ∧ (custody.use use).kept = custody.kept ∧
            (custody.use use).engine.isDragging = false) ∧
      (∀ index pointer geometry, custody.engine.isDragging = true →
        custody.engine.begin index pointer geometry = .error .dragActive ∧
          custody.use (.begin index pointer geometry) = custody) ∧
      (custody.kept = [] →
        (custody.engine.isCapturing = true ↔ custody.engine.isDragging = true)) := by
  intro custody
  have counted : custody.Counted := (counted_start config).useAll uses
  refine ⟨counted.nodup, counted.active, fun use => counted.active_of_givesBack, ?_, ?_, ?_⟩
  · rintro use (rfl | ⟨onTarget, rfl⟩) dragging
    · exact ⟨dragging, rfl, (Engine.isDragging_eq_false_iff _).mpr (Engine.session_cancel _)⟩
    · exact ⟨dragging, rfl, (Engine.isDragging_eq_false_iff _).mpr (Engine.session_release _ _)⟩
  · intro index pointer geometry dragging
    have refused := Engine.begin_of_isDragging dragging index pointer geometry
    exact ⟨refused, use_begin_of_error refused⟩
  · intro nothing
    have active := counted.active
    rw [nothing, Engine.ownCaptures] at active
    rw [Engine.isCapturing, active]
    cases custody.engine.isDragging <;> simp

end Custody

end Drag

end FilterChips

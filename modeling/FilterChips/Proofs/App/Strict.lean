/-
FilterChips.Proofs.App.Strict — no action asks for what is not there.

`Strict.update` carries out an action in the strict reading of
`Proofs.Drag.Strict`: whatever it looks up, takes out or puts in by index
must be within its list, a subtraction must not go below zero, and a
second drag is refused with a fault. Each operation on the pool and the
chips is read so by itself and has the result it has in `Collection`
(`add_eq`, `trash_eq`, `apply_eq`), for any argument at all. So the strict
reading of an action is the action (`update_eq`), in every state.

What the engine itself relies on is more: that the chip of a session is
one of the sequence. No action of a run breaks this
(`index_lt_of_run`), so the chip that a drag shows and drops is there.
-/
import FilterChips.Proofs.App.Transaction
import FilterChips.Proofs.Drag.Strict

namespace FilterChips

/-- The pool without the chip at an index. -/
def IdentifierPool.eraseIdx (pool : IdentifierPool) (index : Nat) : IdentifierPool where
  chips := pool.chips.eraseIdx index
  identifiers := fun chip hc => pool.identifiers chip (List.mem_of_mem_eraseIdx hc)
  distinct := List.Nodup.sublist ((List.eraseIdx_sublist ..).map Chip.label) pool.distinct

namespace Strict

/-! ## §1 The pool and the chips -/

/-- Takes the chip of a label out of a pool, at the first index that has
this label. -/
def take? (pool : IdentifierPool) (label : String) :
    Except Breach (Option (Chip × IdentifierPool)) :=
  match pool.chips.findIdx? fun chip => chip.label = label with
  | none => .ok none
  | some index => do
    let chip ← get pool.chips index
    .ok (some (chip, pool.eraseIdx index))

theorem take?_eq (pool : IdentifierPool) (label : String) :
    take? pool label = .ok (pool.take? label) := by
  unfold take? IdentifierPool.take? IdentifierPool.find?
  rw [List.find?_eq_bind_findIdx?_getElem?]
  cases found : pool.chips.findIdx? fun chip => chip.label = label with
  | none => rfl
  | some index =>
    obtain ⟨hi, -⟩ := List.findIdx?_eq_some_iff_getElem.mp found
    have rest : pool.eraseIdx index = pool.remove label := by
      ext1
      simp [IdentifierPool.eraseIdx, IdentifierPool.remove, List.eraseP_eq_eraseIdx, found]
    have there := List.getElem?_eq_getElem hi
    simp [get_of_getElem? there, there, rest, bind, Except.bind]

/-- Appends a chip, an identifier out of the pool. -/
def add (c : Collection) (chip : Chip) : Except Breach (Bool × Collection) :=
  if chip.isIdentifier then do
    match ← take? c.pool chip.label with
    | some (taken, pool) =>
      .ok (true, { c with sequence := c.sequence ++ [taken], pool }.scheduleValidation)
    | none => .ok (false, c)
  else .ok (true, { c with sequence := c.sequence ++ [chip] }.scheduleValidation)

theorem add_eq (c : Collection) (chip : Chip) : add c chip = .ok (c.add chip) := by
  unfold add Collection.add
  split
  · rw [take?_eq]
    cases c.pool.take? chip.label with
    | none => rfl
    | some taken => rfl
  · rfl

/-- Removes the chip at an index, unless the index is behind the end. -/
def trash (c : Collection) (index : Nat) : Except Breach (Option Chip × Collection) :=
  if c.sequence.length ≤ index then .ok (none, c)
  else do
    let (chip, sequence) ← remove c.sequence index
    .ok (some chip, { c with sequence, pool := c.pool.insert chip }.scheduleValidation)

theorem trash_eq (c : Collection) (index : Nat) : trash c index = .ok (c.trash index) := by
  unfold trash
  split
  · rw [Collection.trash_of_le c (by assumption)]
  · rename_i present
    have hi := Nat.not_le.mp present
    rw [remove_of_lt hi, Collection.trash_of_lt c hi]
    rfl

/-- A list with the element at `source` moved to the position `target` of
the others, or to their end. -/
def moveChip (chips : List Chip) (source target : Nat) : Except Breach (List Chip) := do
  let (chip, others) ← remove chips source
  insert others (min target others.length) chip

theorem moveChip_of_lt {chips : List Chip} {source : Nat} (h : source < chips.length)
    (target : Nat) : moveChip chips source target = .ok (Collection.moveChip chips source target) := by
  unfold moveChip
  rw [remove_of_lt h, Collection.moveChip_of_lt h, ← List.length_eraseIdx_of_lt h]
  exact insert_of_le (Nat.min_le_right _ _) _

/-- Carries out what a finished drag asks for. -/
def apply (c : Collection) : Drag.Commit → Except Breach Collection
  | .remove index => do
    let (_, c) ← trash c index
    .ok c.scheduleValidation
  | .reorder source target =>
    if source < c.sequence.length then do
      let sequence ← moveChip c.sequence source target
      .ok { c with sequence }.scheduleValidation
    else .ok c.scheduleValidation
  | .unchanged => .ok c.scheduleValidation
  | .cancelled => .ok c.scheduleValidation

theorem apply_eq (c : Collection) (commit : Drag.Commit) :
    apply c commit = .ok (c.apply commit) := by
  cases commit with
  | remove index =>
    rw [apply, trash_eq]
    rfl
  | reorder source target =>
    rw [apply, Collection.apply]
    split
    · rw [moveChip_of_lt (by assumption)]
      rfl
    · rw [Collection.moveChip_of_le (Nat.not_lt.mp (by assumption))]
  | unchanged => rfl
  | cancelled => rfl

/-- The sequence as it would be if the chip were dropped now. -/
def preview (engine : Drag.Engine Double) (chips : List Chip) : Except Breach (List Chip) :=
  match engine.session with
  | none => .ok chips
  | some session =>
    if session.placeholder = session.index ∨ chips.length ≤ session.index then .ok chips
    else moveChip chips session.index session.placeholder

theorem preview_eq (engine : Drag.Engine Double) (chips : List Chip) :
    preview engine chips = .ok (engine.preview chips) := by
  unfold preview
  cases hs : engine.session with
  | none => rw [Drag.Engine.preview_of_idle hs]
  | some session =>
    rw [Drag.Engine.preview_of_session hs]
    show (if session.placeholder = session.index ∨ chips.length ≤ session.index then _ else _) = _
    split
    · rename_i still
      rcases still with same | missing
      · rw [same, Collection.moveChip_self]
      · rw [Collection.moveChip_of_le missing]
    · rename_i moves
      exact moveChip_of_lt (Nat.not_le.mp (not_or.mp moves).2) _

/-! ## §2 Actions -/

/-- Ends a drag by dropping the chip. -/
def drop (app : App) (overDeleteTarget : Bool) : Except Breach App := do
  let (commit, drag) := app.drag.release overDeleteTarget
  let removed : Option Chip :=
    match commit with
    | .remove index => app.chips.sequence[index]?
    | _ => none
  let chips ← apply app.chips commit
  .ok { chips, drag, status := (removed.map fun chip => "Removed " ++ chip.label).getD app.status }

/-- The next state and the effect of an action. -/
def update (app : App) (action : Action) : Except Breach (App × Effect) :=
  if app.isBlocked action then .ok (app, .none)
  else
    match action with
    | .addChip chip => do
      match ← add app.chips chip with
      | (true, chips) =>
        .ok ({ app with chips, status := "Added " ++ chip.label }, .scheduleValidation)
      | (false, _) => .ok (app, .none)
    | .trashChip index => do
      match ← trash app.chips index with
      | (some chip, chips) =>
        .ok ({ app with chips, status := "Removed " ++ chip.label }, .scheduleValidation)
      | (none, _) => .ok (app, .none)
    | .clearAll =>
      .ok ({ app with chips := app.chips.clear, status := "Cleared all chips" }, .scheduleValidation)
    | .beginDrag index pointer geometry =>
      if app.drag.isDragging || app.chips.sequence.length ≤ index then .ok (app, .none)
      else do
        let drag ← (app.drag.begin index pointer geometry).mapError .fault
        .ok ({ app with drag }, .none)
    | .pointerMoved pointer => do
      let drag ← dragTo app.drag pointer
      .ok ({ app with drag }, .none)
    | .deleteTargetHover onTarget => .ok ({ app with drag := app.drag.hover onTarget }, .none)
    | .endDrag onTarget =>
      if app.drag.isDragging then do
        let app ← drop app onTarget
        .ok (app, .scheduleValidation)
      else .ok (app, .none)
    | .cancelDrag =>
      if app.drag.isDragging then do
        let (commit, drag) := app.drag.cancel
        let chips ← apply app.chips commit
        .ok ({ chips, drag, status := "Drag cancelled" }, .scheduleValidation)
      else .ok (app, .none)
    | .revalidate => .ok ({ app with chips := app.chips.revalidate.2 }, .none)
    | .quit => .ok (app, .quit)

theorem drop_eq (app : App) (onTarget : Bool) : drop app onTarget = .ok (app.drop onTarget) := by
  unfold drop
  simp only [apply_eq]
  rfl

/-- Strictly read an action does the same, in any state and with any
arguments. -/
theorem update_eq (app : App) (action : Action) :
    update app action = (app.update action).mapError .fault := by
  unfold update App.update
  split
  · rfl
  · cases action with
    | addChip chip =>
      simp only [add_eq]
      rcases app.chips.add chip with ⟨_ | _, chips⟩ <;> rfl
    | trashChip index =>
      simp only [trash_eq]
      rcases app.chips.trash index with ⟨_ | chip, chips⟩ <;> rfl
    | beginDrag index pointer geometry =>
      simp only
      split
      · rfl
      · cases app.drag.begin index pointer geometry <;> rfl
    | pointerMoved pointer =>
      simp only [dragTo_eq]
      rfl
    | endDrag onTarget =>
      simp only [drop_eq]
      split <;> rfl
    | cancelDrag =>
      simp only [apply_eq]
      split <;> rfl
    | clearAll | deleteTargetHover | revalidate | quit => rfl

/-- The application after some actions, together with the effects that
answered them. -/
def run (app : App) : List Action → Except Breach (App × List Effect)
  | [] => .ok (app, [])
  | action :: actions => do
    let (next, effect) ← update app action
    let (last, effects) ← run next actions
    .ok (last, effect :: effects)

theorem run_eq_ok {app last : App} {actions : List Action} {effects : List Effect}
    (h : app.run actions = .ok (last, effects)) : run app actions = .ok (last, effects) := by
  induction actions generalizing app effects with
  | nil =>
    cases h
    rfl
  | cons action actions ih =>
    obtain ⟨next, effect, rest, step, tail, rfl⟩ := App.run_cons_eq_ok_iff.mp h
    rw [run, update_eq, step.update_eq]
    show (run next actions >>= _) = _
    rw [ih tail]
    rfl

end Strict

namespace App

/-! ## §3 Runs -/

/-- **Actions stay within bounds**: from the start of the application with
any chips and any settings, after any actions with any arguments, the
strict reading has a result and it is that of the run. So no second drag
was begun over a first one, nothing was looked up, taken out or put in
outside its list, and no subtraction went below zero; nor does the preview
of the result do any of this. And the chip of a session, if there is one,
is a chip of the sequence. -/
theorem actions_stay_within_bounds (chips : Collection) (config : Drag.Config Double)
    (actions : List Action) :
    ∃ last effects,
      Strict.run (start chips config) actions = .ok (last, effects) ∧
      (start chips config).run actions = .ok (last, effects) ∧
      Strict.preview last.drag last.chips.sequence = .ok last.displaySequence ∧
      ∀ session, last.drag.session = some session →
        session.index < last.chips.sequence.length := by
  obtain ⟨last, effects, h⟩ := exists_run (start chips config) actions
  refine ⟨last, effects, Strict.run_eq_ok h, h, Strict.preview_eq _ _, ?_⟩
  exact index_lt_of_run (by simp [start, Drag.Engine.idle]) h

end App

end FilterChips

/-
FilterChips.Collection — the expression being built, together with the identifiers that are left.

Every change marks a validation as due and does not validate; `revalidate` runs the validator once
for all changes since the last run.
-/
import FilterChips.Drag.Commit
import FilterChips.Expression.Verdict
import FilterChips.Pool

namespace FilterChips

/-- Whether a validation is due, and how often the validator has run. -/
structure Schedule where
  pending : Bool
  runs : Nat
  deriving DecidableEq

/-- The sequence of placed chips, the pool of the others, and the latest verdict on the sequence. -/
structure Collection where
  sequence : List Chip
  pool : IdentifierPool
  verdict : Verdict
  schedule : Schedule
  deriving DecidableEq

namespace Collection

/-- The labels of the sequence. -/
def labels (c : Collection) : List String :=
  c.sequence.map Chip.label

/-- The collection with a validation due. -/
def scheduleValidation (c : Collection) : Collection :=
  { c with schedule := { c.schedule with pending := true } }

/-- Runs the validator. -/
def validateNow (c : Collection) : Collection :=
  { c with verdict := Expression.validate c.labels, schedule := ⟨false, c.schedule.runs + 1⟩ }

/-- Runs the validator if a validation is due, and tells whether it did. -/
def revalidate (c : Collection) : Bool × Collection :=
  if c.schedule.pending then (true, c.validateNow) else (false, c)

/-- Places an initial label; an identifier leaves the pool, and is passed over when it is placed
already. -/
def place (placed : List Chip × IdentifierPool) (label : String) : List Chip × IdentifierPool :=
  let (sequence, pool) := placed
  let chip := Chip.ofLabel label
  if chip.isIdentifier then
    if chip ∈ sequence then placed else (sequence ++ [chip], pool.remove chip.label)
  else (sequence ++ [chip], pool)

/-- The collection of a pool and the labels of an initial expression, validated once. -/
def ofInitial (pool : IdentifierPool) (initial : List String) : Collection :=
  let (sequence, rest) := initial.foldl place ([], pool)
  validateNow ⟨sequence, rest, .valid, ⟨false, 0⟩⟩

/-- Appends a chip: a condition always, an identifier only out of the pool. Tells whether it did. -/
def add (c : Collection) (chip : Chip) : Bool × Collection :=
  if chip.isIdentifier then
    match c.pool.take? chip.label with
    | some (taken, pool) =>
      (true, { c with sequence := c.sequence ++ [taken], pool }.scheduleValidation)
    | none => (false, c)
  else (true, { c with sequence := c.sequence ++ [chip] }.scheduleValidation)

/-- Empties the sequence; its identifiers go back to the pool in order. -/
def clear (c : Collection) : Collection :=
  { c with sequence := [], pool := c.sequence.foldl IdentifierPool.insert c.pool }.scheduleValidation

/-- Removes the chip at an index, if there is one; an identifier goes back to the pool. -/
def trash (c : Collection) (index : Nat) : Option Chip × Collection :=
  match c.sequence[index]? with
  | none => (none, c)
  | some chip =>
    (some chip,
      { c with
        sequence := c.sequence.eraseIdx index
        pool := if chip.isIdentifier then c.pool.insert chip else c.pool }.scheduleValidation)

/-- A list with the element at `source` moved to the position `target` of the others; beyond the end
means to the end, and without such an element nothing moves. -/
def moveChip (chips : List Chip) (source target : Nat) : List Chip :=
  match chips[source]? with
  | none => chips
  | some chip =>
    let others := chips.eraseIdx source
    others.insertIdx (min target others.length) chip

/-- Carries out what a finished drag asks for; a validation is due afterwards in any case. -/
def apply (c : Collection) (commit : Drag.Commit) : Collection :=
  match commit with
  | .remove index => (c.trash index).2.scheduleValidation
  | .reorder source target =>
    { c with sequence := moveChip c.sequence source target }.scheduleValidation
  | .unchanged => c.scheduleValidation
  | .cancelled => c.scheduleValidation

/-! What the operations leave of the sequence and the pool, case by case. -/

@[simp] theorem sequence_scheduleValidation (c : Collection) :
    c.scheduleValidation.sequence = c.sequence := rfl

@[simp] theorem pool_scheduleValidation (c : Collection) :
    c.scheduleValidation.pool = c.pool := rfl

@[simp] theorem sequence_validateNow (c : Collection) : c.validateNow.sequence = c.sequence := rfl

@[simp] theorem pool_validateNow (c : Collection) : c.validateNow.pool = c.pool := rfl

@[simp] theorem sequence_revalidate (c : Collection) :
    c.revalidate.2.sequence = c.sequence := by
  unfold revalidate
  split <;> rfl

@[simp] theorem pool_revalidate (c : Collection) : c.revalidate.2.pool = c.pool := by
  unfold revalidate
  split <;> rfl

/-- A condition is always added. -/
theorem add_of_not_isIdentifier (c : Collection) {chip : Chip} (h : chip.isIdentifier = false) :
    c.add chip = (true, { c with sequence := c.sequence ++ [chip] }.scheduleValidation) := by
  simp [add, h]

/-- An identifier of the pool moves to the end of the sequence. -/
theorem add_of_mem (c : Collection) {chip : Chip} (h : chip.isIdentifier = true)
    (hl : chip.label ∈ c.pool.labels) :
    c.add chip =
      (true, { c with
        sequence := c.sequence ++ [chip]
        pool := c.pool.remove chip.label }.scheduleValidation) := by
  rw [add, if_pos h, IdentifierPool.take?_of_mem hl, ← Chip.eq_identifier h]

/-- An identifier that is not in the pool is refused. -/
theorem add_of_not_mem (c : Collection) {chip : Chip} (h : chip.isIdentifier = true)
    (hl : chip.label ∉ c.pool.labels) : c.add chip = (false, c) := by
  rw [add, if_pos h, IdentifierPool.take?_of_not_mem hl]

/-- What is added comes last, as it was asked for. -/
theorem sequence_of_add {c d : Collection} {chip : Chip} (h : c.add chip = (true, d)) :
    d.sequence = c.sequence ++ [chip] := by
  cases hi : chip.isIdentifier with
  | false =>
    rw [add_of_not_isIdentifier c hi] at h
    cases h
    rfl
  | true =>
    by_cases hl : chip.label ∈ c.pool.labels
    · rw [add_of_mem c hi hl] at h
      cases h
      rfl
    · rw [add_of_not_mem c hi hl] at h
      cases h

/-- Looking at the kind first makes no difference: the pool refuses a condition by itself. -/
theorem trash_of_lt (c : Collection) {index : Nat} (h : index < c.sequence.length) :
    c.trash index =
      (some c.sequence[index],
        { c with
          sequence := c.sequence.eraseIdx index
          pool := c.pool.insert c.sequence[index] }.scheduleValidation) := by
  cases hk : c.sequence[index].isIdentifier with
  | false =>
    simp [trash, List.getElem?_eq_getElem h, hk, IdentifierPool.insert_of_not_isIdentifier hk]
  | true => simp [trash, List.getElem?_eq_getElem h, hk]

/-- The chip between two parts of the sequence is trashed, and they are joined. -/
theorem trash_of_eq_append {c : Collection} {before after : List Chip} {chip : Chip}
    (h : c.sequence = before ++ chip :: after) :
    c.trash before.length =
      (some chip,
        { c with
          sequence := before ++ after
          pool := c.pool.insert chip }.scheduleValidation) := by
  have present : before.length < c.sequence.length := by simp [h]
  have found : c.sequence[before.length] = chip := by simp [h]
  have joined : c.sequence.eraseIdx before.length = before ++ after := by
    rw [h, List.eraseIdx_append_of_length_le (Nat.le_refl _)]
    simp
  rw [trash_of_lt c present, found, joined]

theorem trash_of_le (c : Collection) {index : Nat} (h : c.sequence.length ≤ index) :
    c.trash index = (none, c) := by
  simp [trash, List.getElem?_eq_none h]

end Collection

end FilterChips

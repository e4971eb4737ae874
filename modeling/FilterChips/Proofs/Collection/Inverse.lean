/-
FilterChips.Proofs.Collection.Inverse — edits that undo one another.

A move is undone by the move back, and an addition by trashing the last
chip. What cannot be undone is the schedule: a validation is due
afterwards. The sequence is the old one in both cases, and after a move or
the addition of a condition so is all the rest (`apply_reorder_reorder`,
`trash_last_add_condition`). An identifier goes through the pool on its way
back, so it is the last of the pool then, and the others have kept their
order (`IdentifierPool.chips_insert_remove`).

The pool takes the identifier back because it has just given it out: its
label is in the pool no more. For this it is enough that no label is in a
pool twice, which every pool guarantees; what else stands in the sequence
does not matter. So the laws hold of all collections, reachable or not.
-/
import FilterChips.Proofs.Collection.Move

namespace FilterChips

/-- An identifier that is taken out of a pool and given back goes to its
end. -/
theorem IdentifierPool.chips_insert_remove (pool : IdentifierPool) {chip : Chip}
    (h : chip.isIdentifier = true) :
    ((pool.remove chip.label).insert chip).chips = pool.chips.filter (· ≠ chip) ++ [chip] := by
  have absent : chip.label ∉ (pool.remove chip.label).labels := by
    rw [labels_remove_eq_filter]
    simp
  rw [chips_insert_of_not_mem h absent, chips_remove, ← Chip.eq_identifier h]

namespace Collection

/-- A reorder and the one back only ask for a validation. -/
theorem apply_reorder_reorder {c : Collection} {source target : Nat}
    (hs : source < c.sequence.length) (ht : target < c.sequence.length) :
    (c.apply (.reorder source target)).apply (.reorder target source) = c.scheduleValidation := by
  have same := moveChip_moveChip hs ht
  unfold apply
  simp only [sequence_scheduleValidation, same]
  rfl

/-- The last chip is trashed and goes to the pool. -/
theorem trash_last {c : Collection} {others : List Chip} {chip : Chip}
    (h : c.sequence = others ++ [chip]) :
    c.trash (c.sequence.length - 1) =
      (some chip,
        { c with sequence := others, pool := c.pool.insert chip }.scheduleValidation) := by
  have last : c.sequence.length - 1 = others.length := by simp [h]
  rw [last, trash_of_eq_append h, List.append_nil]

/-- A condition that is added and trashed leaves nothing behind. -/
theorem trash_last_add_condition (c : Collection) {chip : Chip}
    (h : chip.isIdentifier = false) :
    let added := (c.add chip).2
    added.trash (added.sequence.length - 1) = (some chip, c.scheduleValidation) := by
  rw [add_of_not_isIdentifier c h]
  intro added
  have last : added.sequence = c.sequence ++ [chip] := rfl
  rw [trash_last last, IdentifierPool.insert_of_not_isIdentifier h]
  rfl

/-- An identifier that is added and trashed has gone through the pool. -/
theorem trash_last_add_identifier (c : Collection) {chip : Chip}
    (h : chip.isIdentifier = true) (hl : chip.label ∈ c.pool.labels) :
    let added := (c.add chip).2
    added.trash (added.sequence.length - 1) =
      (some chip,
        { c with pool := (c.pool.remove chip.label).insert chip }.scheduleValidation) := by
  rw [add_of_mem c h hl]
  intro added
  have last : added.sequence = c.sequence ++ [chip] := rfl
  rw [trash_last last]
  rfl

/-- **Edits have inverses**: moving a chip from one slot of the sequence to
another and back restores the sequence and leaves the pool alone. A chip
that is added and trashed from the end is handed back and leaves the
sequence as it was; the pool is the same after a condition, and after an
identifier it has this one at its end, behind all the others in their
order. -/
theorem edits_have_inverses (c : Collection) :
    (∀ source target, source < c.sequence.length → target < c.sequence.length →
      let moved := c.apply (.reorder source target)
      let restored := moved.apply (.reorder target source)
      restored.sequence = c.sequence ∧ moved.pool = c.pool ∧ restored.pool = c.pool) ∧
    ∀ chip, (c.add chip).1 = true →
      let added := (c.add chip).2
      let trashed := added.trash (added.sequence.length - 1)
      trashed.1 = some chip ∧ trashed.2.sequence = c.sequence ∧
        (chip.isIdentifier = false → trashed.2.pool = c.pool) ∧
        (chip.isIdentifier = true → chip ∈ c.pool.chips ∧
          trashed.2.pool.chips = c.pool.chips.filter (· ≠ chip) ++ [chip]) := by
  refine ⟨?_, ?_⟩
  · intro source target hs ht moved restored
    have undone : restored = c.scheduleValidation := apply_reorder_reorder hs ht
    rw [undone]
    exact ⟨rfl, rfl, rfl⟩
  · intro chip did added trashed
    cases hi : chip.isIdentifier with
    | false =>
      have undone : trashed = (some chip, c.scheduleValidation) := trash_last_add_condition c hi
      rw [undone]
      exact ⟨rfl, rfl, fun _ => rfl, nofun⟩
    | true =>
      have offered : chip.label ∈ c.pool.labels := by
        by_contra absent
        rw [add_of_not_mem c hi absent] at did
        cases did
      have held : chip ∈ c.pool.chips := by
        have found := IdentifierPool.mem_of_find? (IdentifierPool.find?_of_mem offered)
        rwa [← Chip.eq_identifier hi] at found
      have undone := trash_last_add_identifier c hi offered
      rw [show trashed = _ from undone]
      exact ⟨rfl, rfl, nofun, fun _ => ⟨held, IdentifierPool.chips_insert_remove c.pool hi⟩⟩

/-- Beside a move backwards over two chips, an identifier from the middle
of the pool. -/
theorem edits_have_inverses_for_sushi :
    let c := ofInitial (.ofLabels ["ramen", "sushi", "tacos"]) ["pizza", "AND", "pasta"]
    let moved := c.apply (.reorder 2 0)
    let added := (c.add (.identifier "sushi")).2
    let trashed := added.trash (added.sequence.length - 1)
    moved.labels = ["pasta", "pizza", "AND"] ∧
      (moved.apply (.reorder 0 2)).sequence = c.sequence ∧
      added.labels = ["pizza", "AND", "pasta", "sushi"] ∧
      trashed.1 = some (.identifier "sushi") ∧ trashed.2.sequence = c.sequence ∧
      trashed.2.pool.labels = ["ramen", "tacos", "sushi"] := by
  intro c moved added trashed
  have reordered : moved.labels = ["pasta", "pizza", "AND"] := by decide
  have extended : added.labels = ["pizza", "AND", "pasta", "sushi"] := by decide
  obtain ⟨moves, additions⟩ := edits_have_inverses c
  obtain ⟨back, -, -⟩ := moves 2 0 (by decide) (by decide)
  obtain ⟨handed, same, -, pool⟩ := additions (.identifier "sushi") (by decide)
  refine ⟨reordered, back, extended, handed, same, ?_⟩
  rw [IdentifierPool.labels, (pool rfl).2]
  decide

end Collection

end FilterChips

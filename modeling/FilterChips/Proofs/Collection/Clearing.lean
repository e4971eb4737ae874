/-
FilterChips.Proofs.Collection.Clearing — clearing is trashing chip by
chip.

There are two ways to empty a sequence. Clearing hands every chip to the
pool, conditions too, and leaves it to the pool to refuse them. Trashing
looks at the kind and hands over identifiers alone. Either way the pool
refuses an identifier that it has; such a chip is lost, by both ways
alike.

They agree because a removal from the front may be put before a clearing
without a difference (`clear_trash_zero`). When nothing is left to remove,
nothing is left to clear, except that clearing asks for a validation. The
removals have asked for it, if there was one; this is why the sequence
must not be empty. Nothing is asked of the collection beyond that: chips
may be repeated, and their labels may be in the pool.
-/
import FilterChips.Collection

namespace FilterChips

namespace Collection

/-- The collection after its first chip has been trashed again and again,
until none is left. -/
def trashAll (c : Collection) : Collection :=
  if c.sequence = [] then c else (c.trash 0).2.trashAll
termination_by c.sequence.length
decreasing_by
  rename_i nonempty
  have present : 0 < c.sequence.length := List.length_pos_iff.mpr nonempty
  rw [trash_of_lt c present]
  show (c.sequence.eraseIdx 0).length < c.sequence.length
  rw [List.length_eraseIdx_of_lt present]
  omega

/-- A removal asks for a validation. -/
theorem pending_trash {c : Collection} {index : Nat} (h : index < c.sequence.length) :
    (c.trash index).2.schedule.pending = true := by
  rw [trash_of_lt c h]
  rfl

/-- Clearing goes on where the removal of the first chip has left off. -/
theorem clear_trash_zero {c : Collection} (h : c.sequence ≠ []) :
    (c.trash 0).2.clear = c.clear := by
  cases hs : c.sequence with
  | nil => exact absurd hs h
  | cons chip rest =>
    have first : c.trash 0 = _ := @trash_of_eq_append c [] rest chip hs
    rw [first, clear, clear, hs]
    rfl

/-- With no chip left and a validation due, clearing changes nothing. -/
theorem clear_of_nil {c : Collection} (h : c.sequence = []) (hp : c.schedule.pending = true) :
    c.clear = c := by
  obtain ⟨sequence, pool, verdict, pending, runs⟩ := c
  cases h
  cases hp
  rfl

/-- Where a validation is due, the sequence may be empty. -/
theorem trashAll_of_pending (c : Collection) (h : c.schedule.pending = true) :
    c.trashAll = c.clear := by
  fun_induction trashAll c with
  | case1 c empty => exact (clear_of_nil empty h).symm
  | case2 c nonempty ih =>
    have due := pending_trash (List.length_pos_iff.mpr nonempty)
    rw [ih due, clear_trash_zero nonempty]

/-- **Clearing is trashing chip by chip**: the sequence, the pool with its
order, the verdict and the schedule are those after the first chip has
been trashed until none is left, for every collection that has a chip. -/
theorem clear_eq_trashAll (c : Collection) (h : c.sequence ≠ []) : c.clear = c.trashAll := by
  have due := pending_trash (List.length_pos_iff.mpr h)
  rw [trashAll, if_neg h, trashAll_of_pending _ due, clear_trash_zero h]

/-- Two chips of one identifier, one identifier that the pool has too, and
one that is labelled like a condition: no operations lead here. -/
theorem clear_eq_trashAll_of_repeated :
    let sequence : List Chip :=
      [.identifier "pizza", .condition .and, .identifier "sushi", .identifier "pizza",
        .identifier "AND"]
    let c : Collection := ⟨sequence, .ofLabels ["sushi", "ramen"], .valid, ⟨false, 7⟩⟩
    c.sequence ≠ [] ∧ c.clear = c.trashAll ∧
      c.trashAll.pool.labels = ["sushi", "ramen", "pizza", "AND"] ∧
      c.trashAll.schedule = ⟨true, 7⟩ := by
  intro sequence c
  have nonempty : c.sequence ≠ [] := by decide
  have same := clear_eq_trashAll c nonempty
  rw [← same]
  exact ⟨nonempty, rfl, by decide, rfl⟩

end Collection

end FilterChips

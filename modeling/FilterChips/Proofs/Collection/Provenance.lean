/-
FilterChips.Proofs.Collection.Provenance — where the chips of a collection
come from.

No operation makes up a chip: what is held afterwards, in the sequence or
in the pool, was held before, or it is the chip that was to be added
(`Holds.of_perform`). At the beginning everything held comes out of the
pool or is made from a label of the initial expression
(`Holds.of_ofInitial`). Chips are compared as they are, with their kinds,
where the conservation of identifiers looks at the labels alone.
-/
import FilterChips.Proofs.Collection.Edits
import FilterChips.Proofs.Collection.Move

namespace FilterChips

namespace IdentifierPool

/-! ## §1 Pools -/

variable {pool : IdentifierPool} {chip held : Chip}

theorem remove_subset (pool : IdentifierPool) (label : String) :
    (pool.remove label).chips ⊆ pool.chips :=
  fun _ => List.mem_of_mem_eraseP

theorem mem_of_mem_insert (h : held ∈ (pool.insert chip).chips) :
    held ∈ pool.chips ∨ held = chip := by
  cases accepted : pool.accepts chip with
  | false =>
    rw [insert_of_not_accepts accepted] at h
    exact .inl h
  | true =>
    rw [insert_of_accepts accepted] at h
    exact (List.mem_append.mp h).imp_right List.mem_singleton.mp

theorem mem_of_mem_foldl_insert {chips : List Chip}
    (h : held ∈ (chips.foldl insert pool).chips) : held ∈ pool.chips ∨ held ∈ chips := by
  induction chips generalizing pool with
  | nil => exact .inl h
  | cons chip chips ih =>
    rcases ih h with inserted | later
    · exact (mem_of_mem_insert inserted).imp_right fun same => List.mem_cons.mpr (.inl same)
    · exact .inr (List.mem_cons_of_mem chip later)

/-- A pool of labels holds nothing but the chips of these labels. -/
theorem mem_of_mem_ofLabels {labels : List String} (h : held ∈ (ofLabels labels).chips) :
    ∃ label ∈ labels, held = .ofLabel label := by
  have inserted : held ∈ ((labels.map Chip.ofLabel).foldl insert empty).chips := by
    rwa [List.foldl_map]
  rcases mem_of_mem_foldl_insert inserted with none | given
  · cases none
  · obtain ⟨label, hlabel, rfl⟩ := List.mem_map.mp given
    exact ⟨label, hlabel, rfl⟩

/-- What is on offer is a condition or in the pool. -/
theorem mem_of_mem_offered {query : String} (h : held ∈ pool.offered query) :
    (∃ c, held = .condition c) ∨ held ∈ pool.chips := by
  rcases List.mem_append.mp h with always | matching
  · obtain ⟨c, -, rfl⟩ := List.mem_map.mp always
    exact .inl ⟨c, rfl⟩
  · exact .inr (List.mem_filter.mp matching).1

end IdentifierPool

namespace Collection

/-! ## §2 Operations -/

/-- The chip is in the sequence or in the pool. -/
def Holds (c : Collection) (chip : Chip) : Prop :=
  chip ∈ c.sequence ∨ chip ∈ c.pool.chips

variable {c : Collection} {chip held : Chip}

/-- With one chip more in the sequence and none more in the pool, that is
the only new one. -/
theorem held_before_or_last {sequence : List Chip} {pool rest : IdentifierPool}
    (smaller : rest.chips ⊆ pool.chips)
    (h : held ∈ sequence ++ [chip] ∨ held ∈ rest.chips) :
    (held ∈ sequence ∨ held ∈ pool.chips) ∨ held = chip := by
  rcases h with placed | inPool
  · exact (List.mem_append.mp placed).imp .inl List.mem_singleton.mp
  · exact .inl (.inr (smaller inPool))

theorem Holds.of_add (h : (c.add chip).2.Holds held) : c.Holds held ∨ held = chip := by
  cases identifier : chip.isIdentifier with
  | false =>
    rw [add_of_not_isIdentifier c identifier] at h
    exact held_before_or_last (List.Subset.refl _) h
  | true =>
    by_cases offered : chip.label ∈ c.pool.labels
    · rw [add_of_mem c identifier offered] at h
      exact held_before_or_last (IdentifierPool.remove_subset c.pool chip.label) h
    · rw [add_of_not_mem c identifier offered] at h
      exact .inl h

theorem Holds.of_clear (h : c.clear.Holds held) : c.Holds held := by
  rcases h with placed | inPool
  · cases placed
  · exact (IdentifierPool.mem_of_mem_foldl_insert inPool).symm

theorem Holds.of_trash {index : Nat} (h : (c.trash index).2.Holds held) : c.Holds held := by
  by_cases present : index < c.sequence.length
  · rw [trash_of_lt c present] at h
    rcases h with placed | inPool
    · exact .inl (List.mem_of_mem_eraseIdx placed)
    · rcases IdentifierPool.mem_of_mem_insert inPool with inPool | rfl
      · exact .inr inPool
      · exact .inl (List.getElem_mem present)
  · rwa [trash_of_le c (Nat.le_of_not_lt present)] at h

theorem Holds.of_apply {commit : Drag.Commit} (h : (c.apply commit).Holds held) :
    c.Holds held := by
  cases commit with
  | remove index => exact Holds.of_trash h
  | reorder source target => exact h.imp_left (perm_moveChip c.sequence source target).mem_iff.mp
  | unchanged | cancelled => exact h

theorem Holds.of_revalidate (h : c.revalidate.2.Holds held) : c.Holds held := by
  unfold Holds at h
  rwa [sequence_revalidate, pool_revalidate] at h

/-- No operation makes up a chip. -/
theorem Holds.of_perform {edit : Edit} (h : (c.perform edit).Holds held) :
    c.Holds held ∨ edit = .add held := by
  cases edit with
  | add chip =>
    refine (Holds.of_add h).imp_right ?_
    rintro rfl
    rfl
  | clear => exact .inl h.of_clear
  | trash index => exact .inl h.of_trash
  | apply commit => exact .inl h.of_apply
  | revalidate => exact .inl h.of_revalidate
  | scheduleValidation | validateNow => exact .inl h

/-! ## §3 The initial expression -/

theorem mem_of_mem_place {placed : List Chip × IdentifierPool} {label : String}
    (h : held ∈ (place placed label).1 ∨ held ∈ (place placed label).2.chips) :
    (held ∈ placed.1 ∨ held ∈ placed.2.chips) ∨ held = .ofLabel label := by
  obtain ⟨sequence, pool⟩ := placed
  simp only [place] at h
  split at h
  · split at h
    · exact .inl h
    · exact held_before_or_last (IdentifierPool.remove_subset pool _) h
  · exact held_before_or_last (List.Subset.refl _) h

theorem mem_of_mem_foldl_place {initial : List String} {placed : List Chip × IdentifierPool}
    (h : held ∈ (initial.foldl place placed).1 ∨ held ∈ (initial.foldl place placed).2.chips) :
    (held ∈ placed.1 ∨ held ∈ placed.2.chips) ∨ ∃ label ∈ initial, held = .ofLabel label := by
  induction initial generalizing placed with
  | nil => exact .inl h
  | cons label initial ih =>
    rcases ih h with before | ⟨later, hlater, rfl⟩
    · exact (mem_of_mem_place before).imp_right fun made => ⟨label, List.mem_cons_self, made⟩
    · exact .inr ⟨later, List.mem_cons_of_mem label hlater, rfl⟩

/-- At the beginning every chip is from the pool or made from a label. -/
theorem Holds.of_ofInitial {pool : IdentifierPool} {initial : List String}
    (h : (ofInitial pool initial).Holds held) :
    held ∈ pool.chips ∨ ∃ label ∈ initial, held = .ofLabel label := by
  have placed : held ∈ (initial.foldl place ([], pool)).1 ∨
      held ∈ (initial.foldl place ([], pool)).2.chips := h
  rcases mem_of_mem_foldl_place placed with (none | inPool) | made
  · cases none
  · exact .inl inPool
  · exact .inr made

end Collection

end FilterChips

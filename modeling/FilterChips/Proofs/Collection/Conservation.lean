/-
FilterChips.Proofs.Collection.Conservation — no identifier is lost and
none appears twice.

The holdings of a collection are the labels of its identifiers, first
those in the sequence and then those in the pool. The development rests
on one fact: as long as the holdings have no duplicate, every operation
leaves them a PERMUTATION of what they were (`perm_holdings_perform`).
A permutation has the same members and is again without duplicate, so
the fact carries over to runs of any length, and nothing has to be said
about where an identifier is at any moment.

The condition is needed for the operations that give identifiers back.
`IdentifierPool.insert` drops a chip whose label is in the pool already,
so a sequence and a pool that shared a label would lose it for good on
the way back.

Sections:

  §1 — the identifiers among some chips;
  §2 — every operation permutes the holdings;
  §3 — what the initial expression adds to the pool's labels;
  §4 — `identifiers_conserved`, over every run.
-/
import FilterChips.Proofs.Collection.Edits
import FilterChips.Proofs.Collection.Move

namespace FilterChips

/-! ## §1 The identifiers among some chips -/

/-- The labels of the identifiers among some chips, going by their kind. -/
def identifierLabels (chips : List Chip) : List String :=
  (chips.filter Chip.isIdentifier).map Chip.label

@[simp] theorem identifierLabels_nil : identifierLabels [] = [] := rfl

theorem identifierLabels_cons_of_isIdentifier {chip : Chip} (h : chip.isIdentifier = true)
    (chips : List Chip) :
    identifierLabels (chip :: chips) = chip.label :: identifierLabels chips := by
  simp [identifierLabels, h]

theorem identifierLabels_cons_of_not_isIdentifier {chip : Chip} (h : chip.isIdentifier = false)
    (chips : List Chip) : identifierLabels (chip :: chips) = identifierLabels chips := by
  simp [identifierLabels, h]

theorem identifierLabels_append (first second : List Chip) :
    identifierLabels (first ++ second) = identifierLabels first ++ identifierLabels second := by
  simp [identifierLabels]

theorem perm_identifierLabels {first second : List Chip} (h : first.Perm second) :
    (identifierLabels first).Perm (identifierLabels second) :=
  (h.filter Chip.isIdentifier).map Chip.label

/-- As an identifier is nothing but its label, being placed is a matter
of labels. -/
theorem identifier_mem_iff (label : String) (chips : List Chip) :
    Chip.identifier label ∈ chips ↔ label ∈ identifierLabels chips := by
  constructor
  · intro h
    exact List.mem_map.mpr ⟨.identifier label, List.mem_filter.mpr ⟨h, rfl⟩, rfl⟩
  · intro h
    obtain ⟨chip, hc, rfl⟩ := List.mem_map.mp h
    obtain ⟨hc, hi⟩ := List.mem_filter.mp hc
    rwa [← Chip.eq_identifier hi]

/-- Where the holdings have no duplicate, giving back a row of chips puts
their identifiers behind the pool's, and none is dropped. -/
theorem labels_foldl_insert (chips : List Chip) (pool : IdentifierPool)
    (h : (identifierLabels chips ++ pool.labels).Nodup) :
    (chips.foldl IdentifierPool.insert pool).labels = pool.labels ++ identifierLabels chips := by
  induction chips generalizing pool with
  | nil => simp
  | cons chip chips ih =>
    rw [List.foldl_cons]
    cases hi : chip.isIdentifier with
    | false =>
      rw [identifierLabels_cons_of_not_isIdentifier hi] at h ⊢
      rw [IdentifierPool.insert_of_not_isIdentifier hi]
      exact ih pool h
    | true =>
      rw [identifierLabels_cons_of_isIdentifier hi] at h ⊢
      rw [List.cons_append, List.nodup_cons] at h
      obtain ⟨fresh, rest⟩ := h
      have absent : chip.label ∉ pool.labels := fun hl => fresh (List.mem_append_right _ hl)
      have inserted := IdentifierPool.labels_insert_of_not_mem hi absent
      have perm : (chip.label :: (identifierLabels chips ++ pool.labels)).Perm
          (identifierLabels chips ++ (pool.labels ++ [chip.label])) := by
        rw [← List.append_assoc]
        exact (List.perm_append_singleton _ _).symm
      rw [ih (pool.insert chip) (by
        rw [inserted]
        exact perm.nodup_iff.mp (List.nodup_cons.mpr ⟨fresh, rest⟩)), inserted]
      simp

/-- The labels of all identifiers of a sequence and a pool, those of the
sequence first. -/
def held (placed : List Chip × IdentifierPool) : List String :=
  identifierLabels placed.1 ++ placed.2.labels

namespace Collection

/-! ## §2 Every operation permutes the holdings -/

/-- The labels of all identifiers of a collection. -/
def holdings (c : Collection) : List String :=
  held (c.sequence, c.pool)

/-- Holdings are those of the sequence and the pool and of nothing else. -/
theorem holdings_congr {c d : Collection} (hs : c.sequence = d.sequence) (hp : c.pool = d.pool) :
    c.holdings = d.holdings := by
  simp [holdings, hs, hp]

/-- Where the holdings have no duplicate, an identifier of the sequence is
not in the pool. -/
theorem label_not_mem_pool {c : Collection} (h : c.holdings.Nodup) {chip : Chip}
    (hc : chip ∈ c.sequence) (hi : chip.isIdentifier = true) : chip.label ∉ c.pool.labels := by
  intro hl
  have placed : chip.label ∈ identifierLabels c.sequence :=
    List.mem_map.mpr ⟨chip, List.mem_filter.mpr ⟨hc, hi⟩, rfl⟩
  exact (List.nodup_append.mp h).2.2 _ placed _ hl rfl

theorem perm_holdings_add (c : Collection) (chip : Chip) :
    (c.add chip).2.holdings.Perm c.holdings := by
  cases hi : chip.isIdentifier with
  | false =>
    rw [add_of_not_isIdentifier c hi]
    simp [holdings, held, identifierLabels_append, identifierLabels_cons_of_not_isIdentifier hi]
  | true =>
    by_cases hl : chip.label ∈ c.pool.labels
    · rw [add_of_mem c hi hl]
      simp only [holdings, held, sequence_scheduleValidation, pool_scheduleValidation,
        identifierLabels_append, identifierLabels_cons_of_isIdentifier hi, identifierLabels_nil,
        IdentifierPool.labels_remove, List.append_assoc, List.singleton_append]
      exact (List.perm_cons_erase hl).symm.append_left _
    · rw [add_of_not_mem c hi hl]

theorem perm_holdings_clear (c : Collection) (h : c.holdings.Nodup) :
    c.clear.holdings.Perm c.holdings := by
  have given := labels_foldl_insert c.sequence c.pool h
  simp only [holdings, held, clear, sequence_scheduleValidation, pool_scheduleValidation, given,
    identifierLabels_nil, List.nil_append]
  exact List.perm_append_comm

theorem perm_holdings_trash (c : Collection) (index : Nat) (h : c.holdings.Nodup) :
    (c.trash index).2.holdings.Perm c.holdings := by
  by_cases hi : index < c.sequence.length
  · rw [trash_of_lt c hi]
    have taken := perm_identifierLabels (List.getElem_cons_eraseIdx_perm hi)
    cases hk : c.sequence[index].isIdentifier with
    | false =>
      rw [identifierLabels_cons_of_not_isIdentifier hk] at taken
      simp only [holdings, held, sequence_scheduleValidation, pool_scheduleValidation,
        IdentifierPool.insert_of_not_isIdentifier hk]
      exact taken.append_right _
    | true =>
      rw [identifierLabels_cons_of_isIdentifier hk] at taken
      have absent := label_not_mem_pool h (List.getElem_mem hi) hk
      simp only [holdings, held, sequence_scheduleValidation, pool_scheduleValidation,
        IdentifierPool.labels_insert_of_not_mem hk absent, ← List.append_assoc]
      refine (List.perm_append_singleton _ _).trans ?_
      exact taken.append_right c.pool.labels
  · rw [trash_of_le c (Nat.le_of_not_lt hi)]

theorem perm_holdings_apply (c : Collection) (commit : Drag.Commit) (h : c.holdings.Nodup) :
    (c.apply commit).holdings.Perm c.holdings := by
  cases commit with
  | remove index => exact perm_holdings_trash c index h
  | reorder source target =>
    exact (perm_identifierLabels (perm_moveChip c.sequence source target)).append_right _
  | unchanged => exact List.Perm.refl _
  | cancelled => exact List.Perm.refl _

/-- No operation changes the holdings but for their order. -/
theorem perm_holdings_perform (c : Collection) (edit : Edit) (h : c.holdings.Nodup) :
    (c.perform edit).holdings.Perm c.holdings := by
  cases edit with
  | add chip => exact perm_holdings_add c chip
  | clear => exact perm_holdings_clear c h
  | trash index => exact perm_holdings_trash c index h
  | apply commit => exact perm_holdings_apply c commit h
  | scheduleValidation => exact List.Perm.refl _
  | revalidate =>
    exact .of_eq (holdings_congr (sequence_revalidate c) (pool_revalidate c))
  | validateNow => exact List.Perm.refl _

/-- No run of operations changes the holdings but for their order. -/
theorem perm_holdings_performAll (edits : List Edit) (c : Collection) (h : c.holdings.Nodup) :
    (c.performAll edits).holdings.Perm c.holdings := by
  refine performAll_induction (P := fun d => d.holdings.Perm c.holdings) ?_ edits c (.refl _)
  intro d edit hd
  exact (perm_holdings_perform d edit (hd.nodup_iff.mpr h)).trans hd

/-! ## §3 The initial expression

`place` takes an identifier out of the pool only when it is there, so the
initial expression can bring in identifiers that the pool never had. -/

theorem place_of_some (sequence : List Chip) (pool : IdentifierPool) {label : String}
    {condition : Condition} (h : Condition.ofLabel? label = some condition) :
    place (sequence, pool) label = (sequence ++ [.condition condition], pool) := by
  simp [place, Chip.ofLabel_of_some h]

/-- An identifier that is placed already is passed over. -/
theorem place_of_mem {sequence : List Chip} (pool : IdentifierPool) {label : String}
    (h : Condition.ofLabel? label = none) (hl : label ∈ identifierLabels sequence) :
    place (sequence, pool) label = (sequence, pool) := by
  simp [place, Chip.ofLabel_of_none h, (identifier_mem_iff label sequence).mpr hl]

theorem place_of_not_mem {sequence : List Chip} (pool : IdentifierPool) {label : String}
    (h : Condition.ofLabel? label = none) (hl : label ∉ identifierLabels sequence) :
    place (sequence, pool) label = (sequence ++ [.identifier label], pool.remove label) := by
  have absent : Chip.identifier label ∉ sequence :=
    fun hm => hl ((identifier_mem_iff label sequence).mp hm)
  simp [place, Chip.ofLabel_of_none h, absent]

/-- An initial label is new to the holdings exactly when it is an
identifier that is neither placed nor in the pool; it then joins them, and
in every other case they are only put in another order. -/
theorem perm_held_place (placed : List Chip × IdentifierPool) (label : String) :
    (held (place placed label)).Perm
      (if Condition.ofLabel? label = none ∧ label ∉ held placed then label :: held placed
        else held placed) := by
  obtain ⟨sequence, pool⟩ := placed
  cases hc : Condition.ofLabel? label with
  | some condition =>
    rw [place_of_some sequence pool hc]
    simp [held, identifierLabels_append,
      identifierLabels_cons_of_not_isIdentifier (Chip.isIdentifier_condition condition)]
  | none =>
    by_cases hl : label ∈ identifierLabels sequence
    · rw [place_of_mem pool hc hl]
      simp [held, hl]
    · rw [place_of_not_mem pool hc hl]
      simp only [held, identifierLabels_append, IdentifierPool.labels_remove, List.append_assoc,
        identifierLabels_cons_of_isIdentifier (Chip.isIdentifier_identifier label),
        identifierLabels_nil, Chip.label_identifier, List.singleton_append]
      by_cases hp : label ∈ pool.labels
      · simp only [List.mem_append, hp, or_true, not_true_eq_false, and_false, if_false]
        exact (List.perm_cons_erase hp).symm.append_left _
      · simp only [List.mem_append, hl, hp, or_self, not_false_eq_true, and_self, if_true]
        rw [List.erase_of_not_mem hp]
        exact List.perm_middle

theorem nodup_held_place {placed : List Chip × IdentifierPool} (h : (held placed).Nodup)
    (label : String) : (held (place placed label)).Nodup := by
  refine (perm_held_place placed label).nodup_iff.mpr ?_
  split
  · rename_i hnew
    exact List.nodup_cons.mpr ⟨hnew.2, h⟩
  · exact h

theorem mem_held_place (placed : List Chip × IdentifierPool) (label l : String) :
    l ∈ held (place placed label) ↔
      l ∈ held placed ∨ l = label ∧ Condition.ofLabel? l = none := by
  rw [(perm_held_place placed label).mem_iff]
  split
  · rename_i hnew
    rw [List.mem_cons]
    constructor
    · rintro (rfl | hl)
      · exact Or.inr ⟨rfl, hnew.1⟩
      · exact Or.inl hl
    · rintro (hl | ⟨rfl, -⟩)
      · exact Or.inr hl
      · exact Or.inl rfl
  · rename_i hold
    constructor
    · exact Or.inl
    · rintro (hl | ⟨rfl, hn⟩)
      · exact hl
      · exact Classical.byContradiction fun hm => hold ⟨hn, hm⟩

/-- The initial expression brings in its identifiers and nothing else, and
none of them twice. -/
theorem held_foldl_place (initial : List String) (placed : List Chip × IdentifierPool)
    (h : (held placed).Nodup) :
    (held (initial.foldl place placed)).Nodup ∧
      ∀ l, l ∈ held (initial.foldl place placed) ↔
        l ∈ held placed ∨ l ∈ initial ∧ Condition.ofLabel? l = none := by
  induction initial generalizing placed with
  | nil => exact ⟨h, by simp⟩
  | cons label initial ih =>
    obtain ⟨nodup, mem⟩ := ih (place placed label) (nodup_held_place h label)
    refine ⟨nodup, fun l => ?_⟩
    rw [List.foldl_cons, mem l, mem_held_place, List.mem_cons]
    constructor
    · rintro ((hl | ⟨rfl, hn⟩) | ⟨hl, hn⟩)
      · exact Or.inl hl
      · exact Or.inr ⟨Or.inl rfl, hn⟩
      · exact Or.inr ⟨Or.inr hl, hn⟩
    · rintro (hl | ⟨rfl | hl, hn⟩)
      · exact Or.inl (Or.inl hl)
      · exact Or.inl (Or.inr ⟨rfl, hn⟩)
      · exact Or.inr ⟨hl, hn⟩

theorem holdings_ofInitial (pool : IdentifierPool) (initial : List String) :
    (ofInitial pool initial).holdings.Nodup ∧
      ∀ l, l ∈ (ofInitial pool initial).holdings ↔
        l ∈ pool.labels ∨ l ∈ initial ∧ Condition.ofLabel? l = none := by
  have start : held ([], pool) = pool.labels := rfl
  have placed := held_foldl_place initial ([], pool) (start ▸ pool.nodup_labels)
  rwa [start] at placed

/-! ## §4 Every run -/

/-- In a reachable collection no identifier is held twice. -/
theorem Reachable.nodup_holdings {c : Collection} (h : c.Reachable) : c.holdings.Nodup := by
  obtain ⟨pool, initial, edits, rfl⟩ := h
  have start := (holdings_ofInitial pool initial).1
  exact (perm_holdings_performAll edits _ start).nodup_iff.mpr start

/-- **Conservation**: whatever operations are carried out and in whatever
order, each identifier of the start pool and of the initial expression
stands in exactly one place, in the sequence or in the pool, and there is
no other identifier; and the pool holds nothing but identifiers. -/
theorem identifiers_conserved (pool : IdentifierPool) (initial : List String)
    (edits : List Edit) :
    let c := (ofInitial pool initial).performAll edits
    (identifierLabels c.sequence ++ c.pool.labels).Nodup ∧
      (∀ label, label ∈ identifierLabels c.sequence ++ c.pool.labels ↔
        label ∈ pool.labels ∨ label ∈ initial ∧ Condition.ofLabel? label = none) ∧
      ∀ chip ∈ c.pool.chips, chip.isIdentifier = true := by
  intro c
  obtain ⟨nodup, mem⟩ := holdings_ofInitial pool initial
  have perm : c.holdings.Perm (ofInitial pool initial).holdings :=
    perm_holdings_performAll edits _ nodup
  refine ⟨perm.nodup_iff.mpr nodup, fun label => ?_, c.pool.identifiers⟩
  exact perm.mem_iff.trans (mem label)

end Collection

end FilterChips

/-
FilterChips.Proofs.Collection.Construction — how an initial expression is
placed.

The construction goes through the initial labels once. It extends the
sequence and takes from the pool at the same time, and it looks for a
repetition in the sequence built so far. What comes out can be said of the
labels as they stand, without any of this: the sequence is their chips
`withoutRepetitions`, and the pool keeps the identifiers that are not
among these chips.

The two halves are one invariant, `IsPlacement`, because the loop decides
on both at once. It looks a chip up in the sequence and not among the
chips gone through; these come to the same since a repetition that was
left out has its first occurrence in the sequence (`mem_withoutRepetitions`).
Nothing is asked of the pool: it may lack an identifier of the
expression, and it may hold one that is labelled like a condition, which
no label names.

Sections:

  §1 — chips without their repetitions;
  §2 — one label, and then all of them;
  §3 — `ofInitial_places_expression`, for every pool and expression.
-/
import FilterChips.Launch
import FilterChips.Proofs.Collection.Conservation
import Mathlib.Data.List.Induction

namespace FilterChips

/-! ## §1 Chips without their repetitions -/

/-- Some chips without the repetitions of identifiers: every condition is
kept, and an identifier is if it is not among the chips before it. -/
def withoutRepetitions (chips : List Chip) : List Chip :=
  (chips.zipIdx.filter fun (chip, index) =>
    !chip.isIdentifier || chip ∉ chips.take index).map Prod.fst

/-- One chip more is kept unless it is an identifier that is there. -/
theorem withoutRepetitions_concat (chips : List Chip) (chip : Chip) :
    withoutRepetitions (chips ++ [chip]) =
      withoutRepetitions chips ++
        if chip.isIdentifier = true ∧ chip ∈ chips then [] else [chip] := by
  have before : ∀ entry ∈ chips.zipIdx,
      (!entry.1.isIdentifier || decide (entry.1 ∉ (chips ++ [chip]).take entry.2)) =
        (!entry.1.isIdentifier || decide (entry.1 ∉ chips.take entry.2)) := by
    intro entry he
    have inside : entry.2 < chips.length := List.snd_lt_of_mem_zipIdx he
    rw [List.take_append_of_le_length (Nat.le_of_lt inside)]
  unfold withoutRepetitions
  rw [List.zipIdx_append, List.filter_append, List.map_append, List.filter_congr before]
  congr 1
  by_cases repeated : chip.isIdentifier = true ∧ chip ∈ chips
  · simp [repeated]
  · rw [if_neg repeated]
    have kept : chip.isIdentifier = false ∨ chip ∉ chips := by
      rwa [not_and_or, Bool.not_eq_true] at repeated
    simp [kept]

/-- No chip is left out for good. -/
theorem mem_withoutRepetitions {chip : Chip} {chips : List Chip} :
    chip ∈ withoutRepetitions chips ↔ chip ∈ chips := by
  induction chips using List.reverseRecOn with
  | nil => rfl
  | append_singleton chips last ih =>
    rw [withoutRepetitions_concat, List.mem_append, List.mem_append, ih]
    split
    · rename_i repeated
      constructor
      · exact fun h => h.imp_right fun none => nomatch none
      · rintro (h | h)
        · exact .inl h
        · rw [List.mem_singleton.mp h]
          exact .inl repeated.2
    · rfl

/-- Where no identifier is repeated, nothing is left out. -/
theorem withoutRepetitions_of_nodup {chips : List Chip} (h : (identifierLabels chips).Nodup) :
    withoutRepetitions chips = chips := by
  induction chips using List.reverseRecOn with
  | nil => rfl
  | append_singleton chips last ih =>
    rw [identifierLabels_append, List.nodup_append] at h
    obtain ⟨nodup, -, apart⟩ := h
    rw [withoutRepetitions_concat, ih nodup, if_neg]
    rintro ⟨identifier, present⟩
    have placed : last.label ∈ identifierLabels chips :=
      List.mem_map.mpr ⟨last, List.mem_filter.mpr ⟨present, identifier⟩, rfl⟩
    refine apart _ placed last.label ?_ rfl
    rw [identifierLabels_cons_of_isIdentifier identifier]
    exact List.mem_cons_self

namespace Collection

/-! ## §2 One label, and then all of them -/

/-- The sequence and the pool that are to come of a pool and some chips:
the chips without their repetitions, and what the pool holds beside them. -/
structure IsPlacement (pool : IdentifierPool) (chips : List Chip)
    (placed : List Chip × IdentifierPool) : Prop where
  sequence_eq : placed.1 = withoutRepetitions chips
  chips_eq : placed.2.chips = pool.chips.filter (· ∉ chips)

namespace IsPlacement

variable {pool : IdentifierPool} {chips : List Chip} {placed : List Chip × IdentifierPool}

theorem nil (pool : IdentifierPool) : IsPlacement pool [] ([], pool) :=
  ⟨rfl, by simp⟩

/-- A condition is placed wherever it stands, and no pool holds it. -/
theorem condition (h : IsPlacement pool chips placed) {chip : Chip}
    (hc : chip.isIdentifier = false) :
    IsPlacement pool (chips ++ [chip]) (placed.1 ++ [chip], placed.2) := by
  refine ⟨?_, ?_⟩
  · rw [withoutRepetitions_concat, h.sequence_eq, if_neg (by simp [hc])]
  · rw [h.chips_eq]
    refine List.filter_congr fun held inPool => ?_
    have other : held ≠ chip := by
      rintro rfl
      exact Bool.false_ne_true (hc.symm.trans (pool.identifiers held inPool))
    simp [other]

/-- An identifier that is placed is passed over. -/
theorem repetition (h : IsPlacement pool chips placed) {chip : Chip}
    (hi : chip.isIdentifier = true) (present : chip ∈ chips) :
    IsPlacement pool (chips ++ [chip]) placed := by
  refine ⟨?_, ?_⟩
  · rw [withoutRepetitions_concat, h.sequence_eq, if_pos ⟨hi, present⟩, List.append_nil]
  · rw [h.chips_eq]
    refine List.filter_congr fun held _ => ?_
    have other : held ∉ chips → held ≠ chip := by
      rintro absent rfl
      exact absent present
    simpa using other

/-- A new identifier is placed and leaves the pool. -/
theorem identifier (h : IsPlacement pool chips placed) {label : String}
    (absent : Chip.identifier label ∉ chips) :
    IsPlacement pool (chips ++ [.identifier label])
      (placed.1 ++ [.identifier label], placed.2.remove label) := by
  refine ⟨?_, ?_⟩
  · rw [withoutRepetitions_concat, h.sequence_eq, if_neg fun repeated => absent repeated.2]
  · rw [IdentifierPool.chips_remove, h.chips_eq, List.filter_filter]
    refine List.filter_congr fun held _ => ?_
    simp [Bool.and_comm]

/-- To be placed is to be among the chips gone through. -/
theorem mem_sequence_iff (h : IsPlacement pool chips placed) {chip : Chip} :
    chip ∈ placed.1 ↔ chip ∈ chips := by
  rw [h.sequence_eq]
  exact mem_withoutRepetitions

/-- What one label does. -/
theorem place (h : IsPlacement pool chips placed) (label : String) :
    IsPlacement pool (chips ++ [.ofLabel label]) (place placed label) := by
  obtain ⟨sequence, rest⟩ := placed
  cases hc : Condition.ofLabel? label with
  | some condition =>
    rw [place_of_some sequence rest hc, Chip.ofLabel_of_some hc]
    exact h.condition (Chip.isIdentifier_condition condition)
  | none =>
    have placed_iff : label ∈ identifierLabels sequence ↔ Chip.identifier label ∈ chips :=
      (identifier_mem_iff label sequence).symm.trans h.mem_sequence_iff
    rw [Chip.ofLabel_of_none hc]
    by_cases present : Chip.identifier label ∈ chips
    · rw [place_of_mem rest hc (placed_iff.mpr present)]
      exact h.repetition (Chip.isIdentifier_identifier label) present
    · rw [place_of_not_mem rest hc (mt placed_iff.mp present)]
      exact h.identifier present

/-- What all labels do, the first of the list first. -/
theorem placeAll (h : IsPlacement pool chips placed) (labels : List String) :
    IsPlacement pool (chips ++ labels.map Chip.ofLabel) (labels.foldl Collection.place placed) := by
  induction labels generalizing chips placed with
  | nil => simpa using h
  | cons label labels ih =>
    have later := ih (h.place label)
    rwa [List.append_assoc, List.singleton_append] at later

end IsPlacement

/-! ## §3 Every pool and expression -/

/-- **The initial expression is placed in order**: the sequence is that of
its chips, with every condition and with the first occurrence of every
identifier; the pool keeps its other chips in their order; the validator
has run once, on the labels of the sequence, and is not due again. An
expression that repeats no identifier is placed whole, and its verdict is
the one that checking gives for a text with these tokens. -/
theorem ofInitial_places_expression (pool : IdentifierPool) (initial : List String) :
    let chips := initial.map Chip.ofLabel
    let c := ofInitial pool initial
    c.sequence = withoutRepetitions chips ∧
      c.pool.chips = pool.chips.filter (· ∉ chips) ∧
      c.schedule = ⟨false, 1⟩ ∧
      c.verdict = Expression.validate c.labels ∧
      ((identifierLabels chips).Nodup →
        c.labels = initial ∧ c.verdict = Expression.validate initial ∧
          ∀ text, Expression.tokenize text = initial →
            Launch.check text =
              if c.verdict.isValid then ⟨0, "valid\n", [], [], none⟩
              else ⟨1, c.verdict.message ++ "\n", [], [], none⟩) := by
  intro chips c
  have placement : IsPlacement pool chips (c.sequence, c.pool) :=
    (IsPlacement.nil pool).placeAll initial
  refine ⟨placement.sequence_eq, placement.chips_eq, rfl, rfl, fun nodup => ?_⟩
  have all : c.sequence = chips :=
    placement.sequence_eq.trans (withoutRepetitions_of_nodup nodup)
  have same : c.labels = initial := by
    rw [labels, all, List.map_map]
    exact (List.map_congr_left fun label _ => Chip.label_ofLabel label).trans (List.map_id initial)
  have verdict : c.verdict = Expression.validate initial := congrArg Expression.validate same
  refine ⟨same, verdict, fun text read => ?_⟩
  rw [Launch.check, read, verdict]

/-- Conditions may be repeated, and an identifier need not come from the
pool. -/
theorem ofInitial_places_two_groups :
    let pool := IdentifierPool.ofLabels ["ramen", "pizza", "sushi"]
    let text := "(pizza) AND (tacos)"
    let initial := Expression.tokenize text
    let c := ofInitial pool initial
    (identifierLabels (initial.map Chip.ofLabel)).Nodup ∧
      c.pool.labels = ["ramen", "sushi"] ∧ c.labels = initial ∧
      Launch.check text = ⟨0, "valid\n", [], [], none⟩ := by
  intro pool text initial c
  have nodup : (identifierLabels (initial.map Chip.ofLabel)).Nodup := by decide
  have left : c.pool.labels = ["ramen", "sushi"] := by decide
  obtain ⟨-, -, -, -, placed⟩ := ofInitial_places_expression pool initial
  obtain ⟨same, verdict, checked⟩ := placed nodup
  have valid : c.verdict.isValid = true := by
    rw [verdict]
    decide
  refine ⟨nodup, left, same, ?_⟩
  rw [checked text rfl, if_pos valid]

/-- The second occurrence of an identifier is the one to go. -/
example : (ofInitial (.ofLabels ["pizza"]) ["pizza", "OR", "pizza"]).labels = ["pizza", "OR"] := by
  decide

end Collection

end FilterChips

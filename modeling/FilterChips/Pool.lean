/-
FilterChips.Pool — the identifiers that are not placed in the expression.

A pool lists identifier chips, the latest insertion last, and never two of one label: `insert` refuses
a condition and a label that is there, `take?` removes the chip of a label. Both facts are part of the
type, so whoever holds a pool may use them.
-/
import FilterChips.Chip
import FilterChips.Text.Blank
import FilterChips.Text.LowerCase
import FilterChips.Text.Search

namespace FilterChips

/-- The unused identifiers, in the order of their insertion. -/
@[ext]
structure IdentifierPool where
  chips : List Chip
  /-- No condition is in a pool. -/
  identifiers : ∀ chip ∈ chips, chip.isIdentifier = true
  /-- No label is in a pool twice. -/
  distinct : (chips.map Chip.label).Nodup
  deriving DecidableEq

namespace IdentifierPool

/-! ## 1. The operations -/

/-- A pool without chips. -/
def empty : IdentifierPool := ⟨[], by simp, by simp⟩

/-- The labels in the pool, in order. -/
def labels (pool : IdentifierPool) : List String :=
  pool.chips.map Chip.label

/-- The number of chips. -/
def size (pool : IdentifierPool) : Nat :=
  pool.chips.length

/-- Whether a chip of this label is there. -/
def contains (pool : IdentifierPool) (label : String) : Bool :=
  pool.chips.any fun chip => chip.label = label

/-- Whether `insert` accepts a chip. -/
def accepts (pool : IdentifierPool) (chip : Chip) : Bool :=
  chip.isIdentifier && !pool.contains chip.label

theorem contains_iff (pool : IdentifierPool) (label : String) :
    pool.contains label = true ↔ label ∈ pool.labels := by
  simp [contains, labels]

/-- The identifiers that are accepted are those of a new label. -/
theorem accepts_iff (pool : IdentifierPool) (chip : Chip) :
    pool.accepts chip = true ↔ chip.isIdentifier = true ∧ chip.label ∉ pool.labels := by
  simp [accepts, ← contains_iff]

/-- The pool with an accepted chip at its end. -/
def push (pool : IdentifierPool) (chip : Chip) (h : pool.accepts chip = true) : IdentifierPool where
  chips := pool.chips ++ [chip]
  identifiers := by
    intro c hc
    rcases List.mem_append.1 hc with hc | hc
    · exact pool.identifiers c hc
    · rw [List.mem_singleton.1 hc]
      exact ((accepts_iff pool chip).1 h).1
  distinct := by
    have fresh : chip.label ∉ pool.labels := ((accepts_iff pool chip).1 h).2
    rw [List.map_append, List.nodup_append]
    refine ⟨pool.distinct, by simp, ?_⟩
    intro a ha b hb hab
    rw [hab, List.mem_singleton.1 hb] at ha
    exact fresh ha

/-- The pool with a chip at its end, or unchanged when the chip is not accepted. -/
def insert (pool : IdentifierPool) (chip : Chip) : IdentifierPool :=
  if h : pool.accepts chip = true then pool.push chip h else pool

/-- The chip of a label. -/
def find? (pool : IdentifierPool) (label : String) : Option Chip :=
  pool.chips.find? fun chip => chip.label = label

/-- The pool without the chip of a label, or unchanged when there is none. -/
def remove (pool : IdentifierPool) (label : String) : IdentifierPool where
  chips := pool.chips.eraseP fun chip => chip.label = label
  identifiers := fun chip hc => pool.identifiers chip (List.mem_of_mem_eraseP hc)
  distinct := List.Nodup.sublist (List.eraseP_sublist.map Chip.label) pool.distinct

/-- The chip of a label together with the pool without it. -/
def take? (pool : IdentifierPool) (label : String) : Option (Chip × IdentifierPool) :=
  (pool.find? label).map fun chip => (chip, pool.remove label)

/-- The pool of the identifiers among some labels; a repetition does not count. -/
def ofLabels (labels : List String) : IdentifierPool :=
  labels.foldl (fun pool label => pool.insert (.ofLabel label)) empty

/-- What a query is looked up as: without blanks at its ends and in lower case. -/
def needle (query : String) : List Char :=
  lowerCase (trim query.toList)

/-- The chips whose label, in lower case, contains the query; an empty query is in every label. -/
def matching (pool : IdentifierPool) (query : String) : List Chip :=
  pool.chips.filter fun chip => occursIn (needle query) (lowerCase chip.label.toList)

/-- The chips on offer for a query: the conditions, then the matching identifiers. -/
def offered (pool : IdentifierPool) (query : String) : List Chip :=
  Condition.all.map Chip.condition ++ pool.matching query

/-! ## 2. Each operation, seen through the labels -/

@[simp] theorem chips_empty : empty.chips = [] := rfl

theorem nodup_labels (pool : IdentifierPool) : pool.labels.Nodup := pool.distinct

/-- A chip in a pool is the identifier of its label. -/
theorem eq_identifier_of_mem {pool : IdentifierPool} {chip : Chip} (h : chip ∈ pool.chips) :
    chip = .identifier chip.label :=
  Chip.eq_identifier (pool.identifiers chip h)

/-- A pool is nothing but its labels. -/
theorem chips_eq_map_labels (pool : IdentifierPool) :
    pool.chips = pool.labels.map Chip.identifier := by
  rw [labels, List.map_map]
  refine (List.map_id pool.chips).symm.trans (List.map_congr_left ?_)
  intro chip hc
  exact eq_identifier_of_mem hc

theorem insert_of_accepts {pool : IdentifierPool} {chip : Chip} (h : pool.accepts chip = true) :
    pool.insert chip = pool.push chip h := by
  simp [insert, h]

theorem insert_of_not_accepts {pool : IdentifierPool} {chip : Chip}
    (h : pool.accepts chip = false) : pool.insert chip = pool := by
  simp [insert, h]

/-- A condition is not kept. -/
theorem insert_of_not_isIdentifier {pool : IdentifierPool} {chip : Chip}
    (h : chip.isIdentifier = false) : pool.insert chip = pool :=
  insert_of_not_accepts (by simp [accepts, h])

/-- An identifier of a new label comes last. -/
theorem chips_insert_of_not_mem {pool : IdentifierPool} {chip : Chip}
    (h : chip.isIdentifier = true) (hl : chip.label ∉ pool.labels) :
    (pool.insert chip).chips = pool.chips ++ [chip] := by
  rw [insert_of_accepts ((accepts_iff pool chip).2 ⟨h, hl⟩)]
  rfl

theorem labels_insert_of_not_mem {pool : IdentifierPool} {chip : Chip}
    (h : chip.isIdentifier = true) (hl : chip.label ∉ pool.labels) :
    (pool.insert chip).labels = pool.labels ++ [chip.label] := by
  simp [labels, chips_insert_of_not_mem h hl]

theorem labels_remove (pool : IdentifierPool) (label : String) :
    (pool.remove label).labels = pool.labels.erase label := by
  rw [List.erase_eq_eraseP', labels, labels, List.eraseP_map]
  rfl

/-- Removing a label leaves the others, in their order. -/
theorem labels_remove_eq_filter (pool : IdentifierPool) (label : String) :
    (pool.remove label).labels = pool.labels.filter (· ≠ label) := by
  rw [labels_remove, pool.nodup_labels.erase_eq_filter]
  refine List.filter_congr fun held _ => ?_
  rw [Bool.eq_iff_iff, bne_iff_ne, decide_eq_true_iff]

theorem chips_remove (pool : IdentifierPool) (label : String) :
    (pool.remove label).chips = pool.chips.filter (· ≠ .identifier label) := by
  rw [chips_eq_map_labels, labels_remove_eq_filter, pool.chips_eq_map_labels, List.filter_map]
  congr 1
  refine List.filter_congr fun held _ => ?_
  simp [Chip.identifier]

theorem label_of_find? {pool : IdentifierPool} {label : String} {chip : Chip}
    (h : pool.find? label = some chip) : chip.label = label := by
  simpa using List.find?_some h

theorem mem_of_find? {pool : IdentifierPool} {label : String} {chip : Chip}
    (h : pool.find? label = some chip) : chip ∈ pool.chips :=
  List.mem_of_find?_eq_some h

theorem find?_eq_none_iff (pool : IdentifierPool) (label : String) :
    pool.find? label = none ↔ label ∉ pool.labels := by
  simp [find?, labels]

/-- What is found under a label of the pool is the identifier of that label. -/
theorem find?_of_mem {pool : IdentifierPool} {label : String} (h : label ∈ pool.labels) :
    pool.find? label = some (.identifier label) := by
  cases hf : pool.find? label with
  | none => exact absurd h ((find?_eq_none_iff pool label).1 hf)
  | some chip =>
    rw [eq_identifier_of_mem (mem_of_find? hf), label_of_find? hf]

theorem take?_of_mem {pool : IdentifierPool} {label : String} (h : label ∈ pool.labels) :
    pool.take? label = some (.identifier label, pool.remove label) := by
  simp [take?, find?_of_mem h]

theorem take?_of_not_mem {pool : IdentifierPool} {label : String} (h : label ∉ pool.labels) :
    pool.take? label = none := by
  simp [take?, (find?_eq_none_iff pool label).2 h]

end IdentifierPool

end FilterChips

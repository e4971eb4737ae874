/-
FilterChips.Proofs.Drag.Rows — what the grouping into rows gives, and the
slot that a row gives.

* Rows are made one rectangle at a time. After any number of them the keys
  ascend, and the row of a key consists of the rectangles with this key in
  their order (`Grouped`); each rectangle that is added keeps this
  (`Grouped.add`).
* In a list in reading order the members of a row have consecutive indices
  (`indices_filter_rowKey`). If the pointer has passed the middles of just
  those members that come before some index, then the slot is the one
  before this index (`slotInRow?_eq`).
-/
import FilterChips.Drag.Placeholder
import Mathlib.Data.List.Induction

namespace FilterChips

namespace Drag

variable {α : Type}

/-! ## §1 Rectangles with their places -/

theorem map_index_members (rects : List (ChipRect α)) :
    (members rects).map Member.index = List.range' 0 rects.length := by
  simp [members, Function.comp_def]

theorem map_rect_members (rects : List (ChipRect α)) :
    (members rects).map Member.rect = rects := by
  simp [members, Function.comp_def]

theorem mem_members {rects : List (ChipRect α)} {m : Member α} :
    m ∈ members rects ↔ ∃ h : m.index < rects.length, rects[m.index] = m.rect := by
  obtain ⟨i, rect⟩ := m
  simp [members, List.mem_zipIdx_iff_getElem?, List.getElem?_eq_some_iff]

theorem rect_mem_of_mem_members {rects : List (ChipRect α)} {m : Member α}
    (h : m ∈ members rects) : m.rect ∈ rects := by
  obtain ⟨hi, same⟩ := mem_members.mp h
  rw [← same]
  exact List.getElem_mem hi

/-- Behind the first of consecutive indices the others are consecutive. -/
theorem consecutive_of_cons {m : Member α} {ms : List (Member α)} {first count : Nat}
    (h : (m :: ms).map Member.index = List.range' first count) :
    ∃ rest, count = rest + 1 ∧ m.index = first ∧
      ms.map Member.index = List.range' (first + 1) rest := by
  cases count with
  | zero => simp at h
  | succ rest =>
    rw [List.map_cons, List.range'_succ, List.cons.injEq] at h
    exact ⟨rest, rfl, h⟩

/-- A row of consecutive indices begins with the first of them. -/
theorem Row.index_head {row : Row α} {first count : Nat} (some : row.members ≠ [])
    (consecutive : row.indices = List.range' first count) :
    (row.members.head some).index = first := by
  have heads := congrArg List.head? consecutive
  rw [indices, List.head?_map, List.head?_eq_some_head some, List.head?_range'] at heads
  split at heads
  · cases heads
  · exact Option.some.inj heads

variable [Coordinate α]

/-! ## §2 The rows under their keys -/

/-- A row of one rectangle, to which others have been added. -/
def Row.collect (first : Member α) (rest : List (Member α)) : Row α :=
  rest.foldl Row.append (.single first)

theorem Row.collect_concat (first : Member α) (rest : List (Member α)) (m : Member α) :
    collect first (rest ++ [m]) = (collect first rest).append m := by
  simp [collect]

theorem Row.members_collect (first : Member α) (rest : List (Member α)) :
    (collect first rest).members = first :: rest := by
  induction rest using List.reverseRecOn with
  | nil => rfl
  | append_singleton rest m ih => rw [collect_concat, append, ih, List.cons_append]

theorem Row.top_collect (first : Member α) (rest : List (Member α)) :
    (collect first rest).top = first.rect.top := by
  induction rest using List.reverseRecOn with
  | nil => rfl
  | append_singleton rest m ih => rw [collect_concat, append, ih]

/-- The lower edge of a row is that of its last rectangle. -/
theorem Row.bottom_collect (first : Member α) (rest : List (Member α)) :
    (collect first rest).bottom =
      ((first :: rest).getLast (List.cons_ne_nil first rest)).rect.bottom := by
  cases rest using List.reverseRecOn with
  | nil => rfl
  | append_singleton rest m =>
    rw [collect_concat, List.getLast_cons (by simp), List.getLast_concat]
    rfl

theorem Row.exists_bottom_collect (first : Member α) (rest : List (Member α)) :
    ∃ m ∈ first :: rest, (collect first rest).bottom = m.rect.bottom :=
  ⟨_, List.getLast_mem _, bottom_collect first rest⟩

theorem Row.left_collect (first : Member α) (rest : List (Member α)) :
    (collect first rest).left = (rest.map fun m => m.rect.left).foldl min first.rect.left := by
  rw [collect, List.foldl_map]
  exact (List.foldl_hom Row.left fun _ _ => rfl).symm

theorem Row.right_collect (first : Member α) (rest : List (Member α)) :
    (collect first rest).right = (rest.map fun m => m.rect.right).foldl max first.rect.right := by
  rw [collect, List.foldl_map]
  exact (List.foldl_hom Row.right fun _ _ => rfl).symm

section AddToRows

variable {m : Member α} {key : Int} {row : Row α} {rows : List (Int × Row α)}

theorem addToRows_of_lt (h : m.rect.rowKey < key) :
    addToRows m ((key, row) :: rows) = (m.rect.rowKey, .single m) :: (key, row) :: rows := by
  simp [addToRows, h]

theorem addToRows_of_eq (h : m.rect.rowKey = key) :
    addToRows m ((key, row) :: rows) = (key, row.append m) :: rows := by
  simp [addToRows, h]

theorem addToRows_of_gt (h : key < m.rect.rowKey) :
    addToRows m ((key, row) :: rows) = (key, row) :: addToRows m rows := by
  simp [addToRows, Int.lt_asymm h, Int.ne_of_gt h]

/-- What is added to the row of one key leaves those of other keys alone. -/
theorem mem_addToRows_of_ne (other : key ≠ m.rect.rowKey) :
    (key, row) ∈ addToRows m rows ↔ (key, row) ∈ rows := by
  induction rows with
  | nil => simp [addToRows, other]
  | cons entry rows ih =>
    obtain ⟨entryKey, entryRow⟩ := entry
    rcases Int.lt_trichotomy m.rect.rowKey entryKey with smaller | same | larger
    · simp [addToRows_of_lt smaller, other]
    · have elsewhere : key ≠ entryKey := same ▸ other
      simp [addToRows_of_eq same, elsewhere]
    · simp [addToRows_of_gt larger, ih]

/-- The row of the key of `m`, after `m` has been added: the row that was
there with `m` at its end, or a new one. -/
theorem mem_addToRows_self (ascending : rows.Pairwise fun a b => a.1 < b.1) :
    (m.rect.rowKey, row) ∈ addToRows m rows ↔
      (∃ old, (m.rect.rowKey, old) ∈ rows ∧ row = old.append m) ∨
        (∀ old, (m.rect.rowKey, old) ∉ rows) ∧ row = .single m := by
  induction rows with
  | nil => simp [addToRows]
  | cons entry rows ih =>
    obtain ⟨entryKey, entryRow⟩ := entry
    obtain ⟨below, ascending⟩ := List.pairwise_cons.mp ascending
    have absent (h : m.rect.rowKey ≤ entryKey) (old : Row α) : (m.rect.rowKey, old) ∉ rows :=
      fun hold => Int.not_lt.mpr h (below _ hold)
    rcases Int.lt_trichotomy m.rect.rowKey entryKey with smaller | same | larger
    · simp [addToRows_of_lt smaller, absent (Int.le_of_lt smaller), Int.ne_of_lt smaller]
    · subst same
      simp [addToRows_of_eq, absent (Int.le_refl _)]
    · simp [addToRows_of_gt larger, Int.ne_of_gt larger, ih ascending]

/-- A key is that of a row that was there, or that of the new rectangle. -/
theorem key_of_mem_addToRows {entry : Int × Row α} (h : entry ∈ addToRows m rows) :
    entry.1 = m.rect.rowKey ∨ entry ∈ rows := by
  by_cases same : entry.1 = m.rect.rowKey
  · exact .inl same
  · exact .inr ((mem_addToRows_of_ne same).mp h)

theorem ascending_addToRows (m : Member α) (ascending : rows.Pairwise fun a b => a.1 < b.1) :
    (addToRows m rows).Pairwise fun a b => a.1 < b.1 := by
  induction rows with
  | nil => simp [addToRows]
  | cons entry rows ih =>
    obtain ⟨entryKey, entryRow⟩ := entry
    obtain ⟨below, rest⟩ := List.pairwise_cons.mp ascending
    rcases Int.lt_trichotomy m.rect.rowKey entryKey with smaller | same | larger
    · rw [addToRows_of_lt smaller]
      refine List.pairwise_cons.mpr ⟨List.forall_mem_cons.mpr ⟨smaller, ?_⟩, ascending⟩
      exact fun entry hentry => Int.lt_trans smaller (below entry hentry)
    · rw [addToRows_of_eq same]
      exact List.pairwise_cons.mpr ⟨below, rest⟩
    · rw [addToRows_of_gt larger]
      refine List.pairwise_cons.mpr ⟨fun entry hentry => ?_, ih rest⟩
      rcases key_of_mem_addToRows hentry with new | old
      · rw [new]
        exact larger
      · exact below entry old

end AddToRows

/-! ## §3 The rows of some rectangles -/

/-- The keys ascend, and the row of each key consists of the rectangles
with this key, in their order. -/
structure Grouped (ms : List (Member α)) (rows : List (Int × Row α)) : Prop where
  ascending : rows.Pairwise fun a b => a.1 < b.1
  mem_iff : ∀ key row, (key, row) ∈ rows ↔
    ∃ first rest, (ms.filter fun m => m.rect.rowKey = key) = first :: rest ∧
      row = .collect first rest

theorem Grouped.nil : Grouped ([] : List (Member α)) [] :=
  ⟨.nil, by simp⟩

/-- One more rectangle. -/
theorem Grouped.add {ms : List (Member α)} {rows : List (Int × Row α)} (h : Grouped ms rows)
    (m : Member α) : Grouped (ms ++ [m]) (addToRows m rows) := by
  refine ⟨ascending_addToRows m h.ascending, fun key row => ?_⟩
  rw [List.filter_append]
  by_cases same : key = m.rect.rowKey
  · subst same
    have kept : [m].filter (fun other => other.rect.rowKey = m.rect.rowKey) = [m] := by simp
    rw [mem_addToRows_self h.ascending, kept]
    cases there : ms.filter fun other => other.rect.rowKey = m.rect.rowKey with
    | nil => simp [h.mem_iff, there, Row.collect]
    | cons first rest => simp [h.mem_iff, there, Row.collect_concat]
  · have dropped : [m].filter (fun m => m.rect.rowKey = key) = [] := by simp [Ne.symm same]
    rw [mem_addToRows_of_ne same, dropped, List.append_nil, h.mem_iff]

/-- Any number of further rectangles. -/
theorem Grouped.addAll {ms : List (Member α)} {rows : List (Int × Row α)} (h : Grouped ms rows)
    (new : List (Member α)) :
    Grouped (ms ++ new) (new.foldl (fun rows m => addToRows m rows) rows) := by
  induction new generalizing ms rows with
  | nil => simpa using h
  | cons m new ih => simpa using ih (h.add m)

theorem grouped_keyedRows (rects : List (ChipRect α)) : Grouped (members rects) (keyedRows rects) :=
  Grouped.nil.addAll (members rects)

/-- The rows are those of the keys that rectangles have. -/
theorem mem_groupRows {rects : List (ChipRect α)} {row : Row α} :
    row ∈ groupRows rects ↔
      ∃ key first rest, (members rects).filter (fun m => m.rect.rowKey = key) = first :: rest ∧
        row = .collect first rest := by
  simp [groupRows, (grouped_keyedRows rects).mem_iff]

/-- A rectangle is among those with its key. -/
theorem mem_filter_of_rowKey {rects : List (ChipRect α)} {i : Nat} (hi : i < rects.length)
    {key : Int} (h : rects[i].rowKey = key) :
    (⟨i, rects[i]⟩ : Member α) ∈ (members rects).filter fun m => m.rect.rowKey = key :=
  List.mem_filter.mpr ⟨mem_members.mpr ⟨hi, rfl⟩, decide_eq_true h⟩

/-- A row is made of one rectangle of the list and others after it. -/
theorem exists_collect_of_mem_groupRows {rects : List (ChipRect α)} {row : Row α}
    (h : row ∈ groupRows rects) :
    ∃ first rest, row = .collect first rest ∧ ∀ m ∈ first :: rest, m ∈ members rects := by
  obtain ⟨key, first, rest, chosen, rfl⟩ := mem_groupRows.mp h
  refine ⟨first, rest, rfl, ?_⟩
  intro m hm
  rw [← chosen] at hm
  exact (List.mem_filter.mp hm).1

/-- No row is empty. -/
theorem members_ne_nil_of_mem_groupRows {rects : List (ChipRect α)} {row : Row α}
    (h : row ∈ groupRows rects) : row.members ≠ [] := by
  obtain ⟨first, rest, rfl, -⟩ := exists_collect_of_mem_groupRows h
  simp [Row.members_collect]

/-- The indices of a row are those of its rectangles. -/
theorem getElem?_of_mem_row {rects : List (ChipRect α)} {row : Row α}
    (h : row ∈ groupRows rects) {m : Member α} (hm : m ∈ row.members) :
    rects[m.index]? = some m.rect := by
  obtain ⟨first, rest, rfl, placed⟩ := exists_collect_of_mem_groupRows h
  rw [Row.members_collect] at hm
  obtain ⟨hi, same⟩ := mem_members.mp (placed m hm)
  rw [List.getElem?_eq_getElem hi, same]

/-- The first row that fits is that of a key whose row fits if no row of a
smaller key does. -/
theorem Grouped.find?_eq {ms : List (Member α)} {rows : List (Int × Row α)} (h : Grouped ms rows)
    {key : Int} {row : Row α} (hrow : (key, row) ∈ rows) {fits : Row α → Bool}
    (hfits : fits row = true)
    (before : ∀ key' row', (key', row') ∈ rows → key' < key → fits row' = false) :
    (rows.map Prod.snd).find? fits = some row := by
  have ascending := h.ascending
  clear h
  induction rows with
  | nil => simp at hrow
  | cons entry rows ih =>
    obtain ⟨below, ascending⟩ := List.pairwise_cons.mp ascending
    rcases List.mem_cons.mp hrow with rfl | hrow
    · simp [hfits]
    · have missed : fits entry.2 = false := before _ _ List.mem_cons_self (below _ hrow)
      rw [List.map_cons, List.find?_cons_of_neg (by simp [missed])]
      exact ih hrow (fun key' row' hmem => before key' row' (List.mem_cons_of_mem _ hmem)) ascending

/-! ## §4 Rows in reading order -/

/-- Where keys do not fall from one rectangle to the next, those with one
key have consecutive indices, behind those with smaller keys. -/
theorem indices_filter_rowKey {ms : List (Member α)} {first count : Nat}
    (consecutive : ms.map Member.index = List.range' first count)
    (ordered : ms.Pairwise fun m m' => m.rect.rowKey ≤ m'.rect.rowKey) (key : Int) :
    (ms.filter fun m => m.rect.rowKey = key).map Member.index =
      List.range' (first + (ms.filter fun m => m.rect.rowKey < key).length)
        (ms.filter fun m => m.rect.rowKey = key).length := by
  induction ms generalizing first count with
  | nil => rfl
  | cons m ms ih =>
    obtain ⟨behind, ordered⟩ := List.pairwise_cons.mp ordered
    obtain ⟨count, rfl, rfl, consecutive⟩ := consecutive_of_cons consecutive
    have rest := ih consecutive ordered
    rcases Int.lt_trichotomy m.rect.rowKey key with smaller | same | larger
    · simp [smaller, Int.ne_of_lt smaller, rest, Nat.add_assoc, Nat.add_comm]
    · have none : ms.filter (fun m => m.rect.rowKey < key) = [] := by
        simpa [← same] using behind
      simp [same, none, rest, List.range'_succ]
    · have none : ms.filter (fun m => m.rect.rowKey = key) = [] := by
        simp only [List.filter_eq_nil_iff, decide_eq_true_eq]
        exact fun m' hm' => Int.ne_of_gt (Int.lt_of_lt_of_le larger (behind m' hm'))
      simp [Int.ne_of_gt larger, none]

/-! ## §5 The slot in a row -/

theorem slotBefore_self (dragged : Nat) : slotBefore dragged dragged = dragged := by
  simp [slotBefore]

theorem slotBefore_succ_self (dragged : Nat) : slotBefore dragged (dragged + 1) = dragged := by
  simp [slotBefore]

/-- Behind another chip is before the next one. -/
theorem slotAfter_of_ne {dragged i : Nat} (other : i ≠ dragged) :
    slotAfter dragged i = slotBefore dragged (i + 1) := by
  simp only [slotAfter, slotBefore, if_neg other]
  split <;> split <;> omega

/-- The slot before an index, when the pointer has passed the middles of
those chips that come before it. The scan keeps the slot of the last chip
passed, `slot`; it is only asked for where chips besides the dragged one
are left, or where it is right already. -/
theorem slotAlong_eq {dragged : Nat} {x : α} {ms : List (Member α)} {first count : Nat}
    (consecutive : ms.map Member.index = List.range' first count) {bound : Nat}
    (passed_iff : ∀ m ∈ ms, m.rect.midX < x ↔ m.index < bound) (low : first ≤ bound)
    (high : bound ≤ first + count) {slot : Nat}
    (alone : (∀ m ∈ ms, m.index = dragged) → slot = slotBefore dragged first) :
    slotAlong dragged x slot ms = slotBefore dragged bound := by
  induction ms generalizing first count slot bound with
  | nil =>
    have none : count = 0 := by simpa using consecutive.symm
    have same : bound = first := by omega
    rw [slotAlong, same]
    exact alone (by simp)
  | cons m ms ih =>
    obtain ⟨count, rfl, rfl, consecutive⟩ := consecutive_of_cons consecutive
    have behind : ∀ m' ∈ ms, m.index < m'.index := by
      intro m' hm'
      have := consecutive ▸ List.mem_map_of_mem (f := Member.index) hm'
      rw [List.mem_range'_1] at this
      omega
    obtain ⟨passed, passed_iff⟩ := List.forall_mem_cons.mp passed_iff
    by_cases own : m.index = dragged
    · -- The dragged chip is passed over, and the slots on its two sides are the same.
      have same : slotBefore dragged (max bound (m.index + 1)) = slotBefore dragged bound := by
        rcases Nat.eq_or_lt_of_le low with here | below
        · rw [← here, Nat.max_eq_right (Nat.le_succ _), own, slotBefore_self,
            slotBefore_succ_self]
        · rw [Nat.max_eq_left below]
      rw [slotAlong, if_pos own, ← same]
      refine ih consecutive (fun m' hm' => ?_) (by omega) (by omega) fun others => ?_
      · have := behind m' hm'
        rw [passed_iff m' hm']
        omega
      · rw [alone (List.forall_mem_cons.mpr ⟨own, others⟩), own, slotBefore_self,
          slotBefore_succ_self]
    · rw [slotAlong, if_neg own]
      by_cases reached : m.rect.midX < x
      · rw [if_pos reached]
        exact ih consecutive passed_iff (passed.mp reached) (by omega)
          fun _ => slotAfter_of_ne own
      · have here : bound = m.index := by
          have := mt passed.mpr reached
          omega
        rw [if_neg reached, here]

/-- The slot of a row. -/
theorem slotInRow?_eq {dragged : Nat} {x : α} {row : Row α} {first count : Nat}
    (some : row.members ≠ []) (consecutive : row.indices = List.range' first count) {bound : Nat}
    (passed_iff : ∀ m ∈ row.members, m.rect.midX < x ↔ m.index < bound)
    (ahead : ∀ m ∈ row.members, x < m.rect.midX → ¬ m.rect.midX < x)
    (low : first ≤ bound) (high : bound ≤ first + count) :
    slotInRow? dragged x row = .some (slotBefore dragged bound) := by
  have head_mem := List.head_mem some
  have last_mem := List.getLast_mem some
  have head := Row.index_head some consecutive
  rw [slotInRow?, List.head?_eq_some_head some, List.getLast?_eq_some_getLast some]
  show (if x < (row.members.head some).rect.midX then _ else _) = _
  split
  · rename_i before
    have notPassed := mt (passed_iff _ head_mem).mpr (ahead _ head_mem before)
    have here : bound = first := by omega
    rw [head, here]
  · congr 1
    refine slotAlong_eq consecutive passed_iff low high fun others => ?_
    rw [others _ last_mem, ← head, others _ head_mem, slotBefore_self, slotAfter, if_pos rfl]

/-! ## §6 The slot among some rectangles -/

/-- The row of a key is the first one within reach of a height, when its
rectangles are within reach and those of smaller keys end above. -/
theorem find?_groupRows {rects : List (ChipRect α)} {tolerance y : α} {key : Int}
    (reached : ∀ r ∈ rects, r.rowKey = key → r.top - tolerance ≤ y ∧ y ≤ r.bottom + tolerance)
    (above : ∀ r ∈ rects, r.rowKey < key → ¬ y ≤ r.bottom + tolerance)
    {first : Member α} {rest : List (Member α)}
    (selected : (members rects).filter (fun m => m.rect.rowKey = key) = first :: rest) :
    (groupRows rects).find? (·.spans tolerance y) = some (.collect first rest) := by
  have grouped := grouped_keyedRows rects
  have hrow : (key, Row.collect first rest) ∈ keyedRows rects :=
    (grouped.mem_iff key _).mpr ⟨first, rest, selected, rfl⟩
  refine grouped.find?_eq hrow ?_ fun key' row' hrow' smaller => ?_
  · have chosen : ∀ m ∈ first :: rest, m ∈ members rects ∧ m.rect.rowKey = key := by
      simp [← selected]
    obtain ⟨last, hlast, bottom⟩ := Row.exists_bottom_collect first rest
    obtain ⟨hfirst, firstKey⟩ := chosen first List.mem_cons_self
    obtain ⟨hlast, lastKey⟩ := chosen last hlast
    have fromTop := (reached _ (rect_mem_of_mem_members hfirst) firstKey).1
    have toBottom := (reached _ (rect_mem_of_mem_members hlast) lastKey).2
    simp [Row.spans, Row.top_collect, bottom, fromTop, toBottom]
  · obtain ⟨first', rest', selected', rfl⟩ := (grouped.mem_iff key' row').mp hrow'
    obtain ⟨last, hlast, bottom⟩ := Row.exists_bottom_collect first' rest'
    rw [← selected', List.mem_filter, decide_eq_true_eq] at hlast
    have lower : last.rect.rowKey < key := by
      rw [hlast.2]
      exact smaller
    simp [Row.spans, bottom, above _ (rect_mem_of_mem_members hlast.1) lower]

/-- A row that is not empty has a slot for every pointer. -/
theorem isSome_slotInRow? {row : Row α} (some : row.members ≠ []) (dragged : Nat) (x : α) :
    (slotInRow? dragged x row).isSome = true := by
  rw [slotInRow?, List.head?_eq_some_head some, List.getLast?_eq_some_getLast some]
  show (if x < (row.members.head some).rect.midX then _ else _ : Option Nat).isSome = true
  split <;> rfl

/-- A drag finds a slot just when the pointer is away from the start and at
the height of a row. -/
theorem isSome_placeholderFor_iff (config : Config α) (dragged : Nat) (start pointer : Point α)
    (rects : List (ChipRect α)) :
    (placeholderFor config dragged start pointer rects).isSome = true ↔
      config.isResting start pointer = false ∧
        ∃ row ∈ groupRows rects, row.spans config.rowTolerance pointer.y = true := by
  cases near : config.isResting start pointer with
  | true => simp [placeholderFor_of_isResting near]
  | false =>
    cases active : (groupRows rects).find? (·.spans config.rowTolerance pointer.y) with
    | none =>
      have beside := List.find?_eq_none.mp active
      simpa [placeholderFor, near, active] using beside
    | some row =>
      have hrow := List.mem_of_find?_eq_some active
      have spans := List.find?_some active
      rw [placeholderFor_of_active near active]
      exact ⟨fun _ => ⟨rfl, row, hrow, spans⟩,
        fun _ => isSome_slotInRow? (members_ne_nil_of_mem_groupRows hrow) dragged pointer.x⟩

/-- **The slot for a pointer**: let rectangles stand in reading order, and
let one of them be in a row that is within reach of the pointer, while all
rows above end above it. If the pointer has passed the middles of just
those in this row that come before some index, which is this one's or the
next, then the slot is the one before that index. -/
theorem placeholderFor_eq {config : Config α} {start pointer : Point α}
    {rects : List (ChipRect α)} (moved : config.isResting start pointer = false)
    (ordered : rects.Pairwise fun r s => r.rowKey ≤ s.rowKey) {i : Nat} (hi : i < rects.length)
    (reached : ∀ r ∈ rects, r.rowKey = rects[i].rowKey →
      r.top - config.rowTolerance ≤ pointer.y ∧ pointer.y ≤ r.bottom + config.rowTolerance)
    (above : ∀ r ∈ rects, r.rowKey < rects[i].rowKey →
      ¬ pointer.y ≤ r.bottom + config.rowTolerance)
    {bound : Nat}
    (passed_iff : ∀ (k : Nat) (hk : k < rects.length), rects[k].rowKey = rects[i].rowKey →
      (rects[k].midX < pointer.x ↔ k < bound))
    (ahead : ∀ r ∈ rects, pointer.x < r.midX → ¬ r.midX < pointer.x)
    (beside : bound = i ∨ bound = i + 1) (dragged : Nat) :
    placeholderFor config dragged start pointer rects = some (slotBefore dragged bound) := by
  obtain ⟨key, hkey⟩ : ∃ key, rects[i].rowKey = key := ⟨_, rfl⟩
  rw [hkey] at reached above
  simp only [hkey] at passed_iff
  have hmember := mem_filter_of_rowKey hi hkey
  have orderedMembers : (members rects).Pairwise fun m m' => m.rect.rowKey ≤ m'.rect.rowKey := by
    rwa [← map_rect_members rects, List.pairwise_map] at ordered
  obtain ⟨least, count, consecutive⟩ : ∃ least count, ((members rects).filter fun m =>
      m.rect.rowKey = key).map Member.index = List.range' least count :=
    ⟨_, _, indices_filter_rowKey (map_index_members rects) orderedMembers key⟩
  have present : i ∈ List.range' least count :=
    consecutive ▸ List.mem_map_of_mem (f := Member.index) hmember
  rw [List.mem_range'_1] at present
  obtain ⟨first, rest, selected⟩ := List.exists_cons_of_ne_nil (List.ne_nil_of_mem hmember)
  rw [placeholderFor_of_active moved (find?_groupRows reached above selected)]
  have chosen : ∀ m ∈ (Row.collect first rest).members,
      m ∈ members rects ∧ m.rect.rowKey = key := by
    simp [Row.members_collect, ← selected]
  rw [selected, ← Row.members_collect first rest] at consecutive
  refine slotInRow?_eq (by simp [Row.members_collect]) consecutive (fun m hm => ?_)
    (fun m hm => ahead _ (rect_mem_of_mem_members (chosen m hm).1)) (by omega) (by omega)
  obtain ⟨hmem, mKey⟩ := chosen m hm
  obtain ⟨h, same⟩ := mem_members.mp hmem
  rw [← same] at mKey ⊢
  exact passed_iff m.index h mKey

end Drag

end FilterChips

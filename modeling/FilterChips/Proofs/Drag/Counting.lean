/-
FilterChips.Proofs.Drag.Counting — the slot for a pointer is the number of
chips to the left of it.

The slot within a row is found by a scan with an answer before it, an
answer for its end and a chip that it passes over. Where the rectangles
stand in reading order all of this comes to one number: the chips before
the row and the chips of the row whose middles the pointer has passed, the
dragged one not counted (`placeholder_counts_left`).

The middles do not fall along a row, so those that the pointer has passed
are those before some index, `bound` (`passed_iff_lt`); the slot is then the
one before that index (`Drag.slotInRow?_eq`), and the slot before an index
is the number of other chips before it (`slotBefore_add_countP`).
-/
import FilterChips.Proofs.Drag.Path
import FilterChips.Proofs.Drag.Rows

namespace FilterChips

namespace Drag

/-! ## §1 Reading order -/

/-- Rectangles in reading order: each row lists consecutive ones, and their
middles can be compared and do not fall along it. -/
structure InReadingOrder (rects : List (ChipRect Double)) : Prop where
  consecutive : ∀ row ∈ groupRows rects, ∃ first count, row.indices = List.range' first count
  midpoints : ∀ row ∈ groupRows rects,
    row.members.Pairwise fun m m' => m.rect.midX ≤ m'.rect.midX

/-- The members of a row whose middles a pointer has passed are the first
ones of the row. -/
theorem passed_iff_lt {ms : List (Member Double)} {first count : Nat}
    (consecutive : ms.map Member.index = List.range' first count)
    (midpoints : ms.Pairwise fun m m' => m.rect.midX ≤ m'.rect.midX) (x : Double) :
    ∀ m ∈ ms, m.rect.midX < x ↔ m.index < first + ms.countP fun m => m.rect.midX < x := by
  induction ms generalizing first count with
  | nil => simp
  | cons m ms ih =>
    obtain ⟨behind, midpoints⟩ := List.pairwise_cons.mp midpoints
    obtain ⟨count, rfl, rfl, consecutive⟩ := consecutive_of_cons consecutive
    have rest := ih consecutive midpoints
    by_cases passed : m.rect.midX < x
    · have total : (m :: ms).countP (fun m => m.rect.midX < x) =
          ms.countP (fun m => m.rect.midX < x) + 1 := by
        simp [passed]
      rw [total]
      intro m' hm'
      rcases List.mem_cons.mp hm' with rfl | hm'
      · exact iff_of_true passed (by omega)
      · rw [rest m' hm']
        omega
    · -- The middles do not fall, so none behind the first one is passed either.
      have none : ∀ m' ∈ m :: ms, ¬ m'.rect.midX < x := by
        refine List.forall_mem_cons.mpr ⟨passed, ?_⟩
        exact fun m' hm' reached => passed (Double.lt_of_le_of_lt (behind m' hm') reached)
      have total : (m :: ms).countP (fun m => m.rect.midX < x) = 0 := by
        simpa using none
      rw [total]
      intro m' hm'
      refine iff_of_false (none m' hm') ?_
      have later : m'.index ∈ (m :: ms).map Member.index := List.mem_map_of_mem hm'
      rw [List.map_cons, consecutive, ← List.range'_succ, List.mem_range'_1] at later
      omega

/-! ## §2 Counting the other chips -/

/-- The slot before an index is the number of other chips before it,
counted from any index on. -/
theorem slotBefore_add_countP {dragged first count bound : Nat} (low : first ≤ bound)
    (high : bound ≤ first + count) :
    slotBefore dragged first +
        (List.range' first count).countP (fun i => i ≠ dragged ∧ i < bound) =
      slotBefore dragged bound := by
  induction count generalizing first with
  | zero =>
    have same : bound = first := by omega
    rw [same]
    rfl
  | succ count ih =>
    rw [List.range'_succ]
    rcases Nat.eq_or_lt_of_le low with here | below
    · have none : (first :: List.range' (first + 1) count).countP
          (fun i => i ≠ dragged ∧ i < bound) = 0 := by
        rw [← List.range'_succ, List.countP_eq_zero]
        intro i hi
        rw [List.mem_range'_1] at hi
        simp
        omega
      rw [none, here]
      rfl
    · have below : first + 1 ≤ bound := below
      rw [← ih below (by omega)]
      by_cases own : first = dragged
      · have same : slotBefore dragged (first + 1) = slotBefore dragged first := by
          rw [own, slotBefore_succ_self, slotBefore_self]
        rw [List.countP_cons_of_neg (by simp [own]), same]
      · have next : slotBefore dragged (first + 1) = slotBefore dragged first + 1 := by
          unfold slotBefore
          split <;> split <;> omega
        have counts : first ≠ dragged ∧ first < bound := ⟨own, below⟩
        rw [List.countP_cons_of_pos (by simpa using counts), next]
        omega

/-- The slot before a chip that is there is the number of other chips before
it. -/
theorem countP_members {rects : List (ChipRect Double)} {first : Nat}
    (h : first ≤ rects.length) (dragged : Nat) :
    (members rects).countP (fun m => m.index ≠ dragged ∧ m.index < first) =
      slotBefore dragged first := by
  have inside : first ≤ 0 + rects.length := by rwa [Nat.zero_add]
  have counted : _ = slotBefore dragged first := slotBefore_add_countP (Nat.zero_le first) inside
  have none : slotBefore dragged 0 = 0 := by simp [slotBefore]
  rw [none, Nat.zero_add, ← map_index_members rects, List.countP_map] at counted
  exact counted

/-! ## §3 The slot -/

/-- The slot before an index is the dragged chip's own just when the index
is this chip's or the next. -/
theorem slotBefore_eq_self_iff {dragged bound : Nat} :
    slotBefore dragged bound = dragged ↔ bound = dragged ∨ bound = dragged + 1 := by
  unfold slotBefore
  split <;> omega

section Row

variable {rects : List (ChipRect Double)} (ordered : InReadingOrder rects) {row : Row Double}
  (hrow : row ∈ groupRows rects)
include ordered hrow

/-- The slot in a row: there is an index that the pointer has come to, and
the slot is the number of other chips before it. -/
theorem InReadingOrder.exists_bound (x : Double) :
    ∃ (some : row.members ≠ []) (count bound : Nat),
      let first := (row.members.head some).index
      row.indices = List.range' first count ∧ first ≤ bound ∧ bound ≤ first + count ∧
      (∀ m ∈ row.members, m.rect.midX < x ↔ m.index < bound) ∧
      ∀ dragged, slotInRow? dragged x row = .some (slotBefore dragged bound) ∧
        slotBefore dragged bound =
          (members rects).countP (fun m => m.index ≠ dragged ∧ m.index < first) +
            row.members.countP fun m => m.index ≠ dragged ∧ m.rect.midX < x := by
  obtain ⟨first, count, consecutive⟩ := ordered.consecutive row hrow
  have some := members_ne_nil_of_mem_groupRows hrow
  have head := Row.index_head some consecutive
  have passed := passed_iff_lt consecutive (ordered.midpoints row hrow) x
  obtain ⟨bound, hbound⟩ :
      ∃ bound, bound = first + row.members.countP fun m => m.rect.midX < x := ⟨_, rfl⟩
  rw [← hbound] at passed
  have low : first ≤ bound := by omega
  have high : bound ≤ first + count := by
    have length : row.members.length = count := by
      simpa [Row.indices] using congrArg List.length consecutive
    have part : row.members.countP (fun m => m.rect.midX < x) ≤ row.members.length :=
      List.countP_le_length
    omega
  refine ⟨some, count, bound, ?_⟩
  rw [head]
  refine ⟨consecutive, low, high, passed, fun dragged => ⟨?_, ?_⟩⟩
  · exact slotInRow?_eq some consecutive passed (fun _ _ => Double.lt_asymm) low high
  · have inRow : row.members.countP (fun m => m.index ≠ dragged ∧ m.rect.midX < x) =
        (List.range' first count).countP fun i => i ≠ dragged ∧ i < bound := by
      rw [← consecutive, Row.indices, List.countP_map]
      exact List.countP_congr fun m hm => by simp [passed m hm]
    have present : first ≤ rects.length := by
      have placed := getElem?_of_mem_row hrow (List.head_mem some)
      rw [head] at placed
      exact Nat.le_of_lt (List.getElem?_eq_some_iff.mp placed).1
    rw [inRow, countP_members present, slotBefore_add_countP low high]

end Row

/-- **The slot counts the chips to the left**: let rectangles stand in
reading order, and let a pointer be no closer to the start than the
threshold and `row` be the first row that it is at the height of. Then
the slot is the number of chips before the first one of the row and of
chips of the row whose middles lie to the left of the pointer, without
the dragged chip. So it does not fall when the pointer goes to the right
within the reach of the row; and if the dragged chip is in the row, its own
slot is found just when the pointer has passed the middles of all chips of
the row before it and of none behind it. -/
theorem placeholder_counts_left {config : Config Double} {start pointer : Point Double}
    {rects : List (ChipRect Double)} (ordered : InReadingOrder rects)
    (far : ¬ start.distance pointer < config.distanceThreshold) {row : Row Double}
    (active : (groupRows rects).find? (·.spans config.rowTolerance pointer.y) = some row)
    (dragged : Nat) :
    ∃ first, row.members.head? = some first ∧
      placeholderFor config dragged start pointer rects = some
        ((members rects).countP (fun m => m.index ≠ dragged ∧ m.index < first.index) +
          row.members.countP fun m => m.index ≠ dragged ∧ m.rect.midX < pointer.x) ∧
      (∀ right : Point Double, pointer.x ≤ right.x →
        ¬ start.distance right < config.distanceThreshold →
        (groupRows rects).find? (·.spans config.rowTolerance right.y) = some row →
        ∃ slot slot', placeholderFor config dragged start pointer rects = some slot ∧
          placeholderFor config dragged start right rects = some slot' ∧ slot ≤ slot') ∧
      (dragged ∈ row.indices →
        (placeholderFor config dragged start pointer rects = some dragged ↔
          ∀ m ∈ row.members, (m.index < dragged → m.rect.midX < pointer.x) ∧
            (dragged < m.index → ¬ m.rect.midX < pointer.x))) := by
  have hrow := List.mem_of_find?_eq_some active
  have found : ∀ p : Point Double, ¬ start.distance p < config.distanceThreshold →
      (groupRows rects).find? (·.spans config.rowTolerance p.y) = some row →
      placeholderFor config dragged start p rects = slotInRow? dragged p.x row := by
    intro p far active
    have moved : config.isResting start p = false := by
      rwa [Bool.eq_false_iff, Ne, Config.isResting_iff]
    exact placeholderFor_of_active moved active dragged
  obtain ⟨some, count, bound, consecutive, low, high, passed, slots⟩ :=
    ordered.exists_bound hrow pointer.x
  obtain ⟨inRow, counted⟩ := slots dragged
  rw [found pointer far active, inRow, counted]
  refine ⟨row.members.head some, List.head?_eq_some_head some, rfl, ?_, ?_⟩
  · intro right onward far' active'
    obtain ⟨_, _, bound', _, _, _, _, slots'⟩ := ordered.exists_bound hrow right.x
    obtain ⟨inRow', counted'⟩ := slots' dragged
    refine ⟨_, _, rfl, by rw [found right far' active', inRow', counted'], ?_⟩
    refine Nat.add_le_add_left (List.countP_mono_left fun m _ => ?_) _
    simp only [decide_eq_true_eq]
    exact And.imp_right fun reached => Double.lt_of_lt_of_le reached onward
  · intro own
    have present : ∀ i, (row.members.head some).index ≤ i →
        i < (row.members.head some).index + count → ∃ m ∈ row.members, m.index = i := by
      intro i below above
      have listed : i ∈ row.indices := by
        rw [consecutive, List.mem_range'_1]
        exact ⟨below, above⟩
      exact List.mem_map.mp listed
    rw [consecutive, List.mem_range'_1] at own
    rw [← counted, Option.some.injEq, slotBefore_eq_self_iff]
    constructor
    · intro beside m hm
      rw [passed m hm]
      omega
    · intro around
      -- A bound elsewhere would be refuted by the chip right before it or right behind it.
      rcases Nat.lt_trichotomy bound dragged with below | same | above
      · obtain ⟨m, hm, here⟩ := present bound low (by omega)
        have reached := (passed m hm).mp ((around m hm).1 (by omega))
        omega
      · exact .inl same
      · by_contra apart
        obtain ⟨m, hm, here⟩ := present (dragged + 1) (by omega) (by omega)
        exact (around m hm).2 (by omega) ((passed m hm).mpr (by omega))

/-- The second of four chips on two rows is dragged over the lower row,
past the middle of its first chip: one chip is above, and one to the left. -/
theorem placeholder_counts_left_below :
    let config : Config Double := .standard
    let start : Point Double := ⟨68, 16⟩
    let pointer : Point Double := ⟨60, 70⟩
    let rects : List (ChipRect Double) :=
      [.ofSize 0 0 40 32, .ofSize 48 0 40 32, .ofSize 0 40 40 32, .ofSize 48 40 40 32]
    let row : Row Double := .collect ⟨2, .ofSize 0 40 40 32⟩ [⟨3, .ofSize 48 40 40 32⟩]
    InReadingOrder rects ∧ ¬ start.distance pointer < config.distanceThreshold ∧
      (groupRows rects).find? (·.spans config.rowTolerance pointer.y) = some row ∧
      placeholderFor config 1 start pointer rects = some 2 := by
  intro config start pointer rects row
  have consecutive : ∀ row ∈ groupRows rects,
      row.indices = List.range' (row.indices.headD 0) row.indices.length := by
    decide +kernel
  have ordered : InReadingOrder rects :=
    ⟨fun row hrow => ⟨_, _, consecutive row hrow⟩, by decide +kernel⟩
  have far : ¬ start.distance pointer < config.distanceThreshold := by decide +kernel
  have active : (groupRows rects).find? (·.spans config.rowTolerance pointer.y) = some row := by
    decide +kernel
  obtain ⟨first, hfirst, found, -⟩ := placeholder_counts_left ordered far active 1
  cases hfirst
  exact ⟨ordered, far, active, found.trans (by decide +kernel)⟩

end Drag

end FilterChips

/-
FilterChips.Proofs.Drag.Partition — the rows of some rectangles are an
ordered partition of them.

* Each rectangle that is added to rows ends up in one of them, and no other
  one is lost or doubled on the way (`members_addToRows`). So the rows hold
  every index once (`indices_groupRows`).
* The row of a key holds the indices of the rectangles with this key, in
  ascending order (`mem_indices_iff`, `ascending_indices`).

§3 puts these together for rectangles of doubles, where any edge may be NaN
or infinite. The names of rows are said by values there and the edges of a
row by what they bound, not by the operations that compute them.
-/
import FilterChips.Proofs.Drag.Rows
import FilterChips.Proofs.Number.Double

namespace FilterChips

namespace Drag

section Grouping

variable {α : Type} [Coordinate α]

/-! ## §1 No rectangle is lost -/

/-- One more rectangle. -/
theorem members_addToRows (m : Member α) (rows : List (Int × Row α)) :
    ((addToRows m rows).flatMap fun entry => entry.2.members).Perm
      (m :: rows.flatMap fun entry => entry.2.members) := by
  induction rows with
  | nil => exact .refl _
  | cons entry rows ih =>
    obtain ⟨key, row⟩ := entry
    rcases Int.lt_trichotomy m.rect.rowKey key with smaller | same | larger
    · rw [addToRows_of_lt smaller]
      exact .refl _
    · rw [addToRows_of_eq same]
      show ((row.members ++ [m]) ++ _).Perm _
      rw [List.append_assoc]
      exact List.perm_middle
    · rw [addToRows_of_gt larger]
      exact (ih.append_left row.members).trans List.perm_middle

/-- Any number of further rectangles. -/
theorem members_foldl_addToRows (ms : List (Member α)) (rows : List (Int × Row α)) :
    ((ms.foldl (fun rows m => addToRows m rows) rows).flatMap fun entry => entry.2.members).Perm
      (ms ++ rows.flatMap fun entry => entry.2.members) := by
  induction ms generalizing rows with
  | nil => exact .refl _
  | cons m ms ih =>
    exact (ih (addToRows m rows)).trans
      (((members_addToRows m rows).append_left ms).trans List.perm_middle)

/-- Together the rows hold the index of every rectangle once. -/
theorem indices_groupRows (rects : List (ChipRect α)) :
    ((groupRows rects).flatMap Row.indices).Perm (List.range rects.length) := by
  have all : ((keyedRows rects).flatMap fun entry => entry.2.members).Perm (members rects) := by
    simpa [keyedRows] using members_foldl_addToRows (members rects) []
  have indices := all.map Member.index
  rw [map_index_members, ← List.range_eq_range', List.map_flatMap] at indices
  rwa [groupRows, List.flatMap_map]

/-! ## §2 The indices in a row -/

/-- The indices of a row ascend. -/
theorem ascending_indices {rects : List (ChipRect α)} {row : Row α}
    (h : row ∈ groupRows rects) : row.indices.Pairwise (· < ·) := by
  obtain ⟨key, first, rest, chosen, rfl⟩ := mem_groupRows.mp h
  have part : ((first :: rest).map Member.index).Sublist (List.range' 0 rects.length) := by
    rw [← chosen, ← map_index_members]
    exact List.filter_sublist.map _
  rw [Row.indices, Row.members_collect]
  exact List.Pairwise.sublist part List.pairwise_lt_range'

/-- The row of a key holds the rectangles with this key. -/
theorem mem_indices_iff {rects : List (ChipRect α)} {key : Int} {row : Row α}
    (h : (key, row) ∈ keyedRows rects) {i : Nat} (hi : i < rects.length) :
    i ∈ row.indices ↔ rects[i].rowKey = key := by
  obtain ⟨first, rest, chosen, rfl⟩ := ((grouped_keyedRows rects).mem_iff key row).mp h
  rw [Row.indices, Row.members_collect, ← chosen]
  constructor
  · intro there
    obtain ⟨m, hm, rfl⟩ := List.mem_map.mp there
    obtain ⟨hmem, hkey⟩ := List.mem_filter.mp hm
    obtain ⟨_, same⟩ := mem_members.mp hmem
    rw [same]
    exact of_decide_eq_true hkey
  · intro hkey
    exact List.mem_map_of_mem (mem_filter_of_rowKey hi hkey)

/-- The key of a rectangle is that of a row. -/
theorem exists_row_of_key {rects : List (ChipRect α)} {i : Nat} (hi : i < rects.length) :
    ∃ row, (rects[i].rowKey, row) ∈ keyedRows rects := by
  have chosen := mem_filter_of_rowKey hi rfl
  obtain ⟨first, rest, selected⟩ := List.exists_cons_of_ne_nil (List.ne_nil_of_mem chosen)
  exact ⟨_, ((grouped_keyedRows rects).mem_iff _ _).mpr ⟨first, rest, selected, rfl⟩⟩

/-- Two rectangles are in one row just when they have one key. -/
theorem share_row_iff {rects : List (ChipRect α)} {i j : Nat} (hi : i < rects.length)
    (hj : j < rects.length) :
    (∃ row ∈ groupRows rects, i ∈ row.indices ∧ j ∈ row.indices) ↔
      rects[i].rowKey = rects[j].rowKey := by
  constructor
  · rintro ⟨row, hrow, hiRow, hjRow⟩
    obtain ⟨⟨key, row⟩, keyed, rfl⟩ := List.mem_map.mp hrow
    rw [(mem_indices_iff keyed hi).mp hiRow, (mem_indices_iff keyed hj).mp hjRow]
  · intro same
    obtain ⟨row, keyed⟩ := exists_row_of_key hi
    exact ⟨row, List.mem_map_of_mem keyed, (mem_indices_iff keyed hi).mpr rfl,
      (mem_indices_iff keyed hj).mpr same.symm⟩

/-- The key of a row is that of its upper edge. -/
theorem rowKey_top {rects : List (ChipRect α)} {entry : Int × Row α}
    (h : entry ∈ keyedRows rects) : Coordinate.rowKey entry.2.top = entry.1 := by
  obtain ⟨key, row⟩ := entry
  obtain ⟨first, rest, chosen, rfl⟩ := ((grouped_keyedRows rects).mem_iff key row).mp h
  have hfirst : first ∈ (members rects).filter fun m => m.rect.rowKey = key := by simp [chosen]
  rw [Row.top_collect]
  exact of_decide_eq_true (List.mem_filter.mp hfirst).2

/-- Upper edges come in the order of their keys. -/
theorem ascending_keys (rects : List (ChipRect α)) :
    (groupRows rects).Pairwise fun upper lower =>
      Coordinate.rowKey upper.top < Coordinate.rowKey lower.top := by
  refine List.pairwise_map.mpr ((grouped_keyedRows rects).ascending.imp_of_mem ?_)
  intro upper lower hupper hlower before
  rwa [rowKey_top hupper, rowKey_top hlower]

end Grouping

/-! ## §3 Rectangles of doubles -/

/-- The edges of a row over its rectangles: above that of the first one,
below that of the last one, to the sides the least and the greatest found
in going through them. These are the outermost edges, NaN not counted. -/
structure Row.Encloses (row : Row Double) (first : ChipRect Double)
    (rest : List (ChipRect Double)) : Prop where
  top : row.top = first.top
  bottom : row.bottom = ((first :: rest).getLast (List.cons_ne_nil first rest)).bottom
  left : row.left = (rest.map ChipRect.left).foldl min first.left
  right : row.right = (rest.map ChipRect.right).foldl max first.right
  leftmost : Double.Outermost (· ≤ ·) ((first :: rest).map ChipRect.left) row.left
  rightmost : Double.Outermost (· ≥ ·) ((first :: rest).map ChipRect.right) row.right

theorem Row.encloses_collect (first : Member Double) (rest : List (Member Double)) :
    (collect first rest).Encloses first.rect (rest.map Member.rect) := by
  have left : (collect first rest).left =
      ((rest.map Member.rect).map ChipRect.left).foldl min first.rect.left := by
    rw [left_collect, List.map_map]
    rfl
  have right : (collect first rest).right =
      ((rest.map Member.rect).map ChipRect.right).foldl max first.rect.right := by
    rw [right_collect, List.map_map]
    rfl
  refine ⟨top_collect first rest, ?_, left, right, ?_, ?_⟩
  · show _ = (((first :: rest).map Member.rect).getLast _).bottom
    rw [bottom_collect, List.getLast_map]
  · rw [left]
    exact Double.chooses_min.outermost_foldl _ _
  · rw [right]
    exact Double.chooses_max.outermost_foldl _ _

/-- The indices of a row lead to rectangles that it encloses. -/
theorem exists_encloses {rects : List (ChipRect Double)} {row : Row Double}
    (h : row ∈ groupRows rects) :
    ∃ first rest, row.indices.map (rects[·]?) = (first :: rest).map some ∧
      row.Encloses first rest := by
  have found : row.indices.map (rects[·]?) = (row.members.map Member.rect).map some := by
    rw [Row.indices, List.map_map, List.map_map]
    exact List.map_congr_left fun m hm => getElem?_of_mem_row h hm
  obtain ⟨first, rest, rfl, -⟩ := exists_collect_of_mem_groupRows h
  rw [Row.members_collect] at found
  exact ⟨_, _, found, Row.encloses_collect first rest⟩

theorem rowKey_eq_nearestInt64 (x : Double) : Coordinate.rowKey x = x.nearestInt64 :=
  x.roundToInt64_eq_nearestInt64

/-- **Rows are an ordered partition**: of any rectangles, with NaN and
infinite edges among them, no row is empty, each lists its indices in
ascending order, and together they list every index once. Two rectangles
are in one row just when the integers of 64 bits nearest to their upper
edges are the same, a half going away from zero and NaN counting as 0. The
rows stand in the order of these integers, and each encloses the rectangles
of its indices. -/
theorem groupRows_orderedPartition (rects : List (ChipRect Double)) :
    let rows := groupRows rects
    (∀ row ∈ rows, row.indices ≠ [] ∧ row.indices.Pairwise (· < ·)) ∧
      (rows.flatMap Row.indices).Perm (List.range rects.length) ∧
      (∀ (i j : Nat) (hi : i < rects.length) (hj : j < rects.length),
        (∃ row ∈ rows, i ∈ row.indices ∧ j ∈ row.indices) ↔
          rects[i].top.nearestInt64 = rects[j].top.nearestInt64) ∧
      (rows.Pairwise fun upper lower => upper.top.nearestInt64 < lower.top.nearestInt64) ∧
      ∀ row ∈ rows, ∃ first rest, row.indices.map (rects[·]?) = (first :: rest).map some ∧
        row.Encloses first rest := by
  refine ⟨fun row h => ⟨?_, ascending_indices h⟩, indices_groupRows rects, ?_, ?_, ?_⟩
  · have some := members_ne_nil_of_mem_groupRows h
    simpa [Row.indices] using some
  · intro i j hi hj
    rw [← rowKey_eq_nearestInt64, ← rowKey_eq_nearestInt64]
    exact share_row_iff hi hj
  · simpa only [rowKey_eq_nearestInt64] using ascending_keys rects
  · exact fun row h => exists_encloses h

/-- Three rectangles with upper edges at one, NaN and one half: the first
and the last are in one row, below that of the other one, and at the sides
their own NaN gives way. -/
theorem groupRows_orderedPartition_around_nan :
    let rects : List (ChipRect Double) :=
      [⟨1, 33, .nan, 40⟩, ⟨.nan, 33, 48, .infinity false⟩, ⟨Double.half 1, 33, 96, .nan⟩]
    (groupRows rects).map (fun row => (row.indices, row.left, row.right)) =
        [([1], 48, .infinity false), ([0, 2], 96, 40)] ∧
      ∃ row ∈ groupRows rects, 0 ∈ row.indices ∧ 2 ∈ row.indices := by
  intro rects
  obtain ⟨-, -, share, -⟩ := groupRows_orderedPartition rects
  have sameKey : rects[0].top.nearestInt64 = rects[2].top.nearestInt64 := by decide +kernel
  exact ⟨by decide +kernel, (share 0 2 (by decide) (by decide)).mpr sameKey⟩

end Drag

end FilterChips

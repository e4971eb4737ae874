/-
FilterChips.Proofs.Screen.WholeRows — layouts that end before the last row.

Rows are counted by their tops, which is how they can be seen: a layout
that runs off the last row of the screen has all its further rows there,
at one top. If the rows counted fit above the last row, then none has run
off (`depth_le`), and every cell is the whole of its slot.
-/
import FilterChips.Proofs.Screen.Flow
import Mathlib.Data.List.Dedup
import Mathlib.Data.List.Perm.Subperm

namespace FilterChips

namespace Flow

/-- The number of rows of some cells, told by their tops. -/
def rowCount (cells : List Rect) : Nat :=
  (cells.map Rect.y).dedup.length

theorem length_le_rowCount {cells : List Rect} {tops : List Nat} (distinct : tops.Nodup)
    (present : ∀ top ∈ tops, ∃ cell ∈ cells, cell.y = top) : tops.length ≤ rowCount cells := by
  refine (distinct.subperm fun top htop => ?_).length_le
  exact List.mem_dedup.mpr (List.mem_map.mpr (present top htop))

theorem rowCount_eq_length {cells : List Rect} {tops : List Nat} (distinct : tops.Nodup)
    (same : ∀ top, top ∈ tops ↔ ∃ cell ∈ cells, cell.y = top) : rowCount cells = tops.length := by
  have perm : (cells.map Rect.y).dedup.Perm tops := by
    refine (List.perm_ext_iff_of_nodup (List.nodup_dedup _) distinct).mpr fun top => ?_
    rw [List.mem_dedup, List.mem_map, same]
  exact perm.length_eq

/-- The cell of a slot of which nothing is cut off. -/
def Slot.whole (area : Rect) (slot : Slot) : Rect :=
  ⟨area.x + slot.column, area.y + (chipHeight + rowGap) * slot.row, slot.width, chipHeight⟩

theorem Slot.cell_eq_whole {area : Rect} {slot : Slot}
    (ends : area.x + area.width < Screen.last) (fits : slot.column + slot.width ≤ area.width)
    (above : area.y + slot.depth ≤ Screen.last) : slot.cell area = slot.whole area := by
  simp only [cell, whole, Rect.clamped, Screen.add, depth, chipHeight, rowGap, Rect.mk.injEq,
    true_and] at *
  generalize Screen.last = last at *
  omega

/-- Whole cells have as many rows as their slots, if these are numbered
without a gap. -/
theorem rowCount_map_whole (area : Rect) {slots : List Slot} {rows : Nat}
    (numbered : ∀ k, k < rows ↔ ∃ slot ∈ slots, slot.row = k) :
    rowCount (slots.map (Slot.whole area)) = rows := by
  let tops := (List.range rows).map fun k => area.y + (chipHeight + rowGap) * k
  have distinct : tops.Nodup := by
    refine List.Nodup.map_on (fun i _ j _ same => ?_) List.nodup_range
    simp only [chipHeight, rowGap] at same
    omega
  have length : tops.length = rows := by simp [tops]
  refine (rowCount_eq_length distinct fun top => ?_).trans length
  simp only [tops, List.mem_map, List.mem_range, numbered, exists_exists_and_eq_and, Slot.whole]

variable {area : Rect} {widths : List Nat}

/-- When the rows counted fit above the last row of the screen, then so
does each of them. For a row that does not, together with those above it,
would make a count that does not fit. -/
theorem depth_le
    (low : area.y + 4 * rowCount ((slots area.width widths).map (Slot.cell area)) - 1 ≤
      Screen.last) :
    ∀ slot ∈ slots area.width widths, area.y + slot.depth ≤ Screen.last := by
  have rows_le : ∀ k : Nat, ∀ slot ∈ slots area.width widths, slot.row = k →
      area.y + (4 * k + 3) ≤ Screen.last := by
    intro k
    induction k using Nat.strongRecOn with
    | ind k ih =>
      intro slot hslot hrow
      have above : ∀ i < k, area.y + (4 * i + 3) ≤ Screen.last := by
        intro i hi
        obtain ⟨other, hother, row⟩ := exists_mem_slots hslot (hrow ▸ Nat.le_of_lt hi)
        exact ih i hi other hother row
      let tops := (List.range (k + 1)).map fun i => Screen.add area.y (4 * i)
      have distinct : tops.Nodup := by
        refine List.Nodup.map_on (fun i hi j hj same => ?_) List.nodup_range
        rw [List.mem_range] at hi hj
        -- Of two rows the upper one is above `k`, so its top is not cut off.
        rcases Nat.lt_trichotomy i j with upper | here | lower
        · have := above i (by omega)
          simp only [Screen.add] at same
          omega
        · exact here
        · have := above j (by omega)
          simp only [Screen.add] at same
          omega
      have present : ∀ top ∈ tops, ∃ cell ∈ (slots area.width widths).map (Slot.cell area),
          cell.y = top := by
        intro top htop
        obtain ⟨i, hi, rfl⟩ := List.mem_map.mp htop
        rw [List.mem_range] at hi
        obtain ⟨other, hother, row⟩ := exists_mem_slots hslot (hrow ▸ Nat.le_of_lt_succ hi)
        exact ⟨other.cell area, List.mem_map_of_mem hother, by rw [← row]; rfl⟩
      have counted := length_le_rowCount distinct present
      rw [List.length_map, List.length_range] at counted
      omega
  intro slot hslot
  simpa [Slot.depth, chipHeight, rowGap] using rows_le slot.row slot hslot rfl

/-- The cells of such a layout are whole. -/
theorem cells_eq_whole (wide : 1 ≤ area.width) (ends : area.x + area.width < Screen.last)
    (top : area.y ≤ Screen.last) {labels : List String} {cells : List Rect}
    (laid : Flow.cells area labels = .ok cells)
    (low : area.y + 4 * rowCount cells - 1 ≤ Screen.last) :
    cells = (slots area.width (labels.map (widthIn area))).map (Slot.whole area) := by
  cases (cells_eq wide ends top labels).symm.trans laid
  refine List.map_congr_left fun slot hslot => Slot.cell_eq_whole ends ?_ (depth_le low slot hslot)
  exact Slot.column_add_width_le (widthIn_le wide labels) slot hslot

end Flow

/-- In reading order, `r` comes before `s`: in the same row with a free
column between them, or in a row above with a free row between. -/
def Rect.ReadsBefore (r s : Rect) : Prop :=
  r.y = s.y ∧ r.x + r.width + Flow.gap ≤ s.x ∨ r.y + (Flow.chipHeight + Flow.rowGap) ≤ s.y

/-- Tops of different rows are four screen rows apart. -/
theorem Rect.add_four_le_of_lt {cells : List Rect} (ordered : cells.Pairwise Rect.ReadsBefore)
    {r s : Rect} (hr : r ∈ cells) (hs : s ∈ cells) (above : r.y < s.y) : r.y + 4 ≤ s.y := by
  obtain ⟨i, hi, rfl⟩ := List.getElem_of_mem hr
  obtain ⟨j, hj, rfl⟩ := List.getElem_of_mem hs
  have before := List.pairwise_iff_getElem.mp ordered
  simp only [ReadsBefore, Flow.chipHeight, Flow.rowGap] at before
  rcases Nat.lt_trichotomy i j with left | same | right
  · have := before i j hi hj left
    omega
  · subst same
    omega
  · have := before j i hj hi right
    omega

/-- The whole cells of a layout come in reading order, and each has the
height of a chip. -/
theorem Flow.readsBefore_cells {area : Rect} (wide : 1 ≤ area.width)
    (ends : area.x + area.width < Screen.last) (top : area.y ≤ Screen.last) {labels : List String}
    {cells : List Rect} (laid : Flow.cells area labels = .ok cells)
    (low : area.y + 4 * rowCount cells - 1 ≤ Screen.last) :
    cells.Pairwise Rect.ReadsBefore ∧ ∀ cell ∈ cells, cell.height = chipHeight := by
  rw [cells_eq_whole wide ends top laid low]
  constructor
  · refine List.pairwise_map.mpr ((pairwise_slotsFrom ..).imp fun {s t} before => ?_)
    simp only [Rect.ReadsBefore, Slot.whole, chipHeight, rowGap]
    simp only [Slot.Before] at before
    omega
  · intro cell hcell
    obtain ⟨slot, -, rfl⟩ := List.mem_map.mp hcell
    rfl

end FilterChips

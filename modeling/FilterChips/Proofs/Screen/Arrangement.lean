/-
FilterChips.Proofs.Screen.Arrangement — the flow layout puts chips into
rows, and every position is traced to the one chip that covers it.

All of it is said about a layout that ends before the last column and row.
There every cell is the whole of its slot (`cells_eq_whole`), so what is
to be shown are facts about slots: each begins one free column behind the
one before it or starts a row (`isChain_slotsFrom`), and no row is left
out, so a slot of row `k` has `k` rows above it (`rowCount_above`).

`Rect.contains` adds up columns and rows on the screen, where sums stop.
`Rect.Covers` is the same question in plain numbers, and above the last
row the two agree.
-/
import FilterChips.Proofs.Screen.WholeRows
import Mathlib.Data.List.Chain

namespace FilterChips

/-- A position lies in a rectangle, by plain numbers. -/
def Rect.Covers (r : Rect) (column row : Nat) : Prop :=
  r.x ≤ column ∧ column < r.x + r.width ∧ r.y ≤ row ∧ row < r.y + r.height

theorem Rect.contains_iff_covers {r : Rect} (right : r.x + r.width ≤ Screen.last)
    (bottom : r.y + r.height ≤ Screen.last) (column row : Nat) :
    r.contains column row = true ↔ r.Covers column row := by
  rw [contains_iff, Rect.right, Rect.bottom, Flow.add_of_le right, Flow.add_of_le bottom]
  rfl

namespace Flow

/-! ## §1 Slots in their rows -/

theorem map_width_slotsFrom (room x row : Nat) (widths : List Nat) :
    (slotsFrom room x row widths).map Slot.width = widths := by
  induction widths generalizing x row with
  | nil => rfl
  | cons width widths ih =>
    simp only [slotsFrom]
    split
    · rw [List.map_cons, ih]
    · rw [List.map_cons, ih]

/-- The first slot is where the next chip comes, unless it is in a new
row. -/
theorem column_of_mem_head? {room x row : Nat} {widths : List Nat} {slot : Slot}
    (h : slot ∈ (slotsFrom room x row widths).head?) (same : slot.row = row) :
    slot.column = x := by
  cases widths with
  | nil => simp [slotsFrom] at h
  | cons width widths =>
    simp only [slotsFrom] at h
    split at h
    · obtain rfl := Option.some.inj h
      simp at same
    · obtain rfl := Option.some.inj h
      rfl

/-- Neighbours in a row have one free column between them. -/
theorem isChain_slotsFrom (room x row : Nat) (widths : List Nat) :
    (slotsFrom room x row widths).IsChain
      fun s t => s.row = t.row → s.column + s.width + gap = t.column := by
  induction widths generalizing x row with
  | nil => exact List.IsChain.nil
  | cons width widths ih =>
    simp only [slotsFrom]
    split
    · refine List.isChain_cons.mpr ⟨fun next hnext same => ?_, ih _ _⟩
      rw [column_of_mem_head? hnext same.symm, Nat.zero_add]
    · refine List.isChain_cons.mpr ⟨fun next hnext same => ?_, ih _ _⟩
      rw [column_of_mem_head? hnext same.symm]

/-- The cells above that of a slot are in as many rows as its number says. -/
theorem rowCount_above {room : Nat} {widths : List Nat} {slot : Slot}
    (hslot : slot ∈ slots room widths) (area : Rect) :
    rowCount (((slots room widths).map (Slot.whole area)).filter
      fun above => above.y < (slot.whole area).y) = slot.row := by
  have above_iff : ∀ s : Slot, (s.whole area).y < (slot.whole area).y ↔ s.row < slot.row := by
    intro s
    simp only [Slot.whole, chipHeight, rowGap]
    omega
  rw [List.filter_map]
  refine rowCount_map_whole area fun k => ?_
  simp only [List.mem_filter, Function.comp_apply, above_iff, decide_eq_true_eq]
  constructor
  · intro above
    obtain ⟨other, hother, rfl⟩ := exists_mem_slots hslot (Nat.le_of_lt above)
    exact ⟨other, ⟨hother, above⟩, rfl⟩
  · rintro ⟨other, ⟨-, above⟩, rfl⟩
    exact above

/-! ## §2 The arrangement -/

/-- Cells stand in rows from the top of an area on: within its columns, in
reading order, next to each other with one free column between them, and
below each other with a free row between. -/
structure Arranged (area : Rect) (cells : List Rect) : Prop where
  height : ∀ cell ∈ cells, cell.height = chipHeight
  within : ∀ cell ∈ cells, area.x ≤ cell.x ∧ cell.x + cell.width ≤ area.x + area.width
  /-- Each cell is in the row whose number is that of the rows above. -/
  top : ∀ cell ∈ cells, cell.y =
    area.y + (chipHeight + rowGap) * rowCount (cells.filter fun above => above.y < cell.y)
  ordered : cells.Pairwise fun r s => r.y < s.y ∨ r.y = s.y ∧ r.x < s.x
  adjacent : ∀ (i : Nat) (next : i + 1 < cells.length), cells[i].y = cells[i + 1].y →
    cells[i].x + cells[i].width + gap = cells[i + 1].x
  apart : ∀ r ∈ cells, ∀ s ∈ cells, r.y < s.y → r.y + r.height + rowGap ≤ s.y

/-- Looking for a position finds the cell that covers it: there is one at
most, and none is found only where there is none. -/
structure Locates (cells : List Rect) : Prop where
  found : ∀ column row i, hit? cells column row = some i ↔
    ∃ h : i < cells.length, cells[i].Covers column row
  unique : ∀ column row (i j : Nat) (hi : i < cells.length) (hj : j < cells.length),
    cells[i].Covers column row → cells[j].Covers column row → i = j
  missed : ∀ column row, hit? cells column row = none ↔ ∀ cell ∈ cells, ¬ cell.Covers column row

section Layout

variable {area : Rect} (wide : 1 ≤ area.width) (ends : area.x + area.width < Screen.last)
  (top : area.y ≤ Screen.last) {labels : List String} {cells : List Rect}
  (laid : Flow.cells area labels = .ok cells)
  (low : area.y + 4 * rowCount cells - 1 ≤ Screen.last)
include wide ends top laid low

theorem map_width_cells :
    cells.map Rect.width = labels.map fun label => min (Label.chipWidth label) area.width := by
  rw [← List.map_congr_left fun label _ => widthIn_of_wide wide label,
    cells_eq_whole wide ends top laid low, List.map_map]
  exact map_width_slotsFrom area.width 0 0 _

theorem arranged_cells : Arranged area cells where
  height := (readsBefore_cells wide ends top laid low).2
  within := by
    rw [cells_eq_whole wide ends top laid low, List.forall_mem_map]
    intro slot hslot
    have fits := Slot.column_add_width_le (widthIn_le wide labels) slot hslot
    simp only [Slot.whole]
    omega
  top := by
    rw [cells_eq_whole wide ends top laid low, List.forall_mem_map]
    intro slot hslot
    rw [rowCount_above hslot]
    rfl
  ordered := by
    refine (readsBefore_cells wide ends top laid low).1.imp fun {r s} before => ?_
    simp only [Rect.ReadsBefore, chipHeight, rowGap, gap] at before
    omega
  adjacent := by
    have chain : cells.IsChain fun r s => r.y = s.y → r.x + r.width + gap = s.x := by
      rw [cells_eq_whole wide ends top laid low]
      refine List.isChain_map_of_isChain _ (fun s t abuts same => ?_) (isChain_slotsFrom _ 0 0 _)
      simp only [Slot.whole, chipHeight, rowGap] at same ⊢
      have columns := abuts (by omega)
      omega
    exact List.isChain_iff_getElem.mp chain
  apart := by
    obtain ⟨ordered, height⟩ := readsBefore_cells wide ends top laid low
    intro r hr s hs above
    rw [height r hr]
    exact Rect.add_four_le_of_lt ordered hr hs above

/-- Nothing is cut off, so sums on the screen do not stop. -/
theorem contains_iff_covers_of_mem : ∀ cell ∈ cells, ∀ column row,
    cell.contains column row = true ↔ cell.Covers column row := by
  rw [cells_eq_whole wide ends top laid low, List.forall_mem_map]
  intro slot hslot
  cases (cells_eq wide ends top labels).symm.trans laid
  have fits := Slot.column_add_width_le (widthIn_le wide labels) slot hslot
  have above := depth_le low slot hslot
  refine Rect.contains_iff_covers ?_ ?_
  · simp only [Slot.whole]
    omega
  · simp only [Slot.whole, Slot.depth] at above ⊢
    omega

theorem locates_cells : Locates cells where
  found := by
    intro column row i
    rw [hit?_eq_some_iff (precedes_cells laid)]
    exact exists_congr fun hi =>
      contains_iff_covers_of_mem wide ends top laid low _ (List.getElem_mem hi) column row
  unique := by
    intro column row i j hi hj ci cj
    have covers := contains_iff_covers_of_mem wide ends top laid low
    exact Rect.eq_of_contains (precedes_cells laid) hi hj
      ((covers _ (List.getElem_mem hi) _ _).mpr ci) ((covers _ (List.getElem_mem hj) _ _).mpr cj)
  missed := by
    intro column row
    rw [hit?, List.findIdx?_eq_none_iff]
    refine forall₂_congr fun cell hcell => ?_
    rw [← contains_iff_covers_of_mem wide ends top laid low cell hcell, Bool.not_eq_true]

end Layout

/-- **The layout is arranged in rows and inverted by looking**: in an area
that has a column and ends before the last one, any chips are laid out.
If the rows counted end above the last row of the screen, then there is a
cell for each chip, of its width but not wider than the area; the cells
stand in rows; and a position is traced to the cell that covers it. -/
theorem layout_arranged_and_located {area : Rect} (wide : 1 ≤ area.width)
    (ends : area.x + area.width < Screen.last) (top : area.y ≤ Screen.last)
    (labels : List String) :
    ∃ cells, Flow.cells area labels = .ok cells ∧
      (area.y + 4 * rowCount cells - 1 ≤ Screen.last →
        cells.map Rect.width = labels.map (fun label => min (Label.chipWidth label) area.width) ∧
        Arranged area cells ∧ Locates cells) := by
  have laid := cells_eq wide ends top labels
  exact ⟨_, laid, fun low => ⟨map_width_cells wide ends top laid low,
    arranged_cells wide ends top laid low, locates_cells wide ends top laid low⟩⟩

/-- Two rows in the lower right corner of the screen, as low and as far to
the right as they may be. -/
theorem layout_located_in_corner :
    let area : Rect := ⟨65514, 65528, 20, 7⟩
    1 ≤ area.width ∧ area.x + area.width < Screen.last ∧ area.y ≤ Screen.last ∧
      ∃ cells, Flow.cells area ["pizza", "AND", "tacos"] = .ok cells ∧
        area.y + 4 * rowCount cells - 1 ≤ Screen.last ∧ Arranged area cells ∧
        hit? cells 65524 65530 = some 1 ∧ hit? cells 65523 65528 = none := by
  intro area
  let laidOut : List Rect :=
    [⟨65514, 65528, 9, 3⟩, ⟨65524, 65528, 7, 3⟩, ⟨65514, 65532, 9, 3⟩]
  have values : Flow.cells area ["pizza", "AND", "tacos"] = .ok laidOut := by decide +kernel
  have bounds : 1 ≤ area.width ∧ area.x + area.width < Screen.last ∧ area.y ≤ Screen.last := by
    decide
  obtain ⟨wide, ends, top⟩ := bounds
  obtain ⟨cells, laid, placed⟩ :=
    layout_arranged_and_located wide ends top ["pizza", "AND", "tacos"]
  obtain rfl : laidOut = cells := Except.ok.inj (values.symm.trans laid)
  have low : area.y + 4 * rowCount laidOut - 1 ≤ Screen.last := by decide
  obtain ⟨-, arranged, located⟩ := placed low
  refine ⟨wide, ends, top, laidOut, laid, low, arranged, (located.found ..).mpr ?_, ?_⟩
  · exact ⟨by decide, by decide, by decide, by decide, by decide⟩
  · rw [located.missed]
    simp [laidOut, Rect.Covers]

end Flow

end FilterChips

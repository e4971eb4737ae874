/-
FilterChips.Proofs.Screen.Flow — where the flow layout puts its chips.

Sums on the screen stop at the last column and row, and a cell is cut off
there. Two things are said about the layout.

* In any area whatever, the cells come one after another: each one ends
  to the left of those behind it or above them (`precedes_cells`). No
  position lies in two cells, also where sums have stopped.
* In an area that ends before the last column no sum of columns stops,
  and the layout is that of an area without end, moved to the corner of
  the area (`cells_eq`). `Slot` is a place in such a layout: an offset
  from the left edge, the number of a row, and a width. The slots depend
  on the width of the area alone, so layouts in areas of one width can be
  compared: one at the origin tells how many rows another one needs
  (`isWithin_iff_height_le`).
-/
import FilterChips.Screen.Flow

namespace FilterChips

/-- What succeeds in two steps succeeds in each. -/
theorem Fault.bind_eq_ok_iff {α β : Type} {x : Except Fault α} {f : α → Except Fault β} {b : β} :
    x >>= f = .ok b ↔ ∃ a, x = .ok a ∧ f a = .ok b := by
  cases x <;> simp [bind, Except.bind]

/-! ## §1 Positions in rectangles -/

namespace Rect

theorem contains_iff (r : Rect) (column row : Nat) :
    r.contains column row = true ↔
      r.x ≤ column ∧ column < r.right ∧ r.y ≤ row ∧ row < r.bottom := by
  simp [contains, and_assoc]

theorem isWithin_iff (r s : Rect) :
    r.isWithin s = true ↔
      s.x ≤ r.x ∧ s.y ≤ r.y ∧ min r.right s.right - r.x = r.width ∧
        min r.bottom s.bottom - r.y = r.height := by
  obtain ⟨x, y, width, height⟩ := r
  simp only [isWithin, inter, decide_eq_true_eq, Rect.mk.injEq]
  constructor
  · rintro ⟨hx, hy, hw, hh⟩
    rw [hx] at hw
    rw [hy] at hh
    omega
  · rintro ⟨hx, hy, hw, hh⟩
    rw [Nat.max_eq_left hx, Nat.max_eq_left hy]
    exact ⟨rfl, rfl, hw, hh⟩

/-- A rectangle within another one has no position outside it. -/
theorem contains_of_isWithin {r s : Rect} (h : r.isWithin s = true) {column row : Nat}
    (hr : r.contains column row = true) : s.contains column row = true := by
  obtain ⟨hx, hy, hw, hh⟩ := (isWithin_iff r s).mp h
  obtain ⟨hleft, hright, htop, hbottom⟩ := (contains_iff r column row).mp hr
  have right_le : r.right ≤ r.x + r.width := Nat.min_le_left ..
  have bottom_le : r.bottom ≤ r.y + r.height := Nat.min_le_left ..
  refine (contains_iff s column row).mpr ⟨?_, ?_, ?_, ?_⟩ <;> omega

/-- One cell in from every side is still within. -/
theorem contains_of_inside {r : Rect} {column row : Nat}
    (h : r.inside.contains column row = true) : r.contains column row = true := by
  rw [contains_iff] at h ⊢
  simp only [inside, right, bottom, Screen.add] at *
  generalize Screen.last = last at *
  omega

/-- `r` ends to the left of `s` or above it. -/
def Precedes (r s : Rect) : Prop :=
  r.right ≤ s.x ∨ r.bottom ≤ s.y

/-- Of two rectangles one of which precedes the other, a position lies in
one at most. -/
theorem Precedes.not_contains {r s : Rect} (h : r.Precedes s) {column row : Nat}
    (hr : r.contains column row = true) : ¬ s.contains column row = true := by
  intro hs
  rw [contains_iff] at hr hs
  rcases h with h | h <;> omega

/-- Of cells that come one after another, only one has a position. -/
theorem eq_of_contains {cells : List Rect} (h : cells.Pairwise Precedes) {i j : Nat}
    (hi : i < cells.length) (hj : j < cells.length) {column row : Nat}
    (ci : cells[i].contains column row = true) (cj : cells[j].contains column row = true) :
    i = j := by
  have precedes := List.pairwise_iff_getElem.mp h
  rcases Nat.lt_trichotomy i j with before | same | behind
  · exact absurd cj ((precedes i j hi hj before).not_contains ci)
  · exact same
  · exact absurd ci ((precedes j i hj hi behind).not_contains cj)

end Rect

namespace Flow

/-! ## §2 One cell after another -/

theorem hit?_of_contains {cells : List Rect} (h : cells.Pairwise Rect.Precedes) {i : Nat}
    (hi : i < cells.length) {column row : Nat} (ci : cells[i].contains column row = true) :
    hit? cells column row = some i := by
  cases found : hit? cells column row with
  | none =>
    have missed := List.findIdx?_eq_none_iff.mp found cells[i] (List.getElem_mem hi)
    simp [ci] at missed
  | some j =>
    obtain ⟨hj, cj, -⟩ := List.findIdx?_eq_some_iff_getElem.mp found
    rw [Rect.eq_of_contains h hi hj ci cj]

theorem hit?_eq_some_iff {cells : List Rect} (h : cells.Pairwise Rect.Precedes) {i column row : Nat} :
    hit? cells column row = some i ↔
      ∃ hi : i < cells.length, cells[i].contains column row = true := by
  constructor
  · intro found
    obtain ⟨hi, ci, -⟩ := List.findIdx?_eq_some_iff_getElem.mp found
    exact ⟨hi, ci⟩
  · rintro ⟨hi, ci⟩
    exact hit?_of_contains h hi ci

theorem length_cellsFrom {area : Rect} {x y : Nat} {widths : List Nat} {cells : List Rect}
    (h : cellsFrom area x y widths = .ok cells) : cells.length = widths.length := by
  induction widths generalizing x y cells with
  | nil =>
    cases h
    rfl
  | cons width widths ih =>
    simp only [cellsFrom, Fault.bind_eq_ok_iff] at h
    obtain ⟨step, -, rest, hrest, h⟩ := h
    cases h
    rw [List.length_cons, List.length_cons, ih hrest]

/-- Every chip gets a cell. -/
theorem length_cells {area : Rect} {labels : List String} {cells : List Rect}
    (h : Flow.cells area labels = .ok cells) : cells.length = labels.length :=
  (length_cellsFrom h).trans (List.length_map _)

theorem sum_eq_ok_iff {a b c : Nat} : sum a b = .ok c ↔ a + b ≤ Screen.last ∧ c = a + b := by
  by_cases h : a + b ≤ Screen.last <;> simp [sum, h, eq_comm]

/-- A chip goes where it comes next, or else into the next row. -/
theorem place_eq_or (area : Rect) (x y width : Nat) :
    place area x y width = (x, y) ∨
      place area x y width = (area.x, Screen.add y (chipHeight + rowGap)) := by
  unfold place
  split
  · exact .inr rfl
  · exact .inl rfl

/-- When `x`, `y` come next, each cell stands in this row at `x` or
behind it, or in a lower row. -/
theorem bounds_of_mem_cellsFrom {area : Rect} {x y : Nat} {widths : List Nat}
    {cells : List Rect} (h : cellsFrom area x y widths = .ok cells) :
    ∀ cell ∈ cells, cell.y = y ∧ min x Screen.last ≤ cell.x ∨
      Screen.add y (chipHeight + rowGap) ≤ cell.y := by
  induction widths generalizing x y cells with
  | nil =>
    cases h
    simp
  | cons width widths ih =>
    simp only [cellsFrom, Fault.bind_eq_ok_iff] at h
    obtain ⟨step, -, rest, hrest, h⟩ := h
    cases h
    intro cell hcell
    have corner := place_eq_or area x y width
    rcases List.mem_cons.mp hcell with rfl | hcell
    · rcases corner with corner | corner <;> rw [corner]
      · exact .inl ⟨rfl, Nat.min_le_left ..⟩
      · exact .inr (Nat.le_refl _)
    · have bounds := ih hrest cell hcell
      clear ih hrest
      rcases corner with corner | corner <;> rw [corner] at bounds <;>
        simp only [Screen.add] at bounds ⊢ <;> generalize Screen.last = last at * <;> omega

theorem precedes_cellsFrom {area : Rect} {x y : Nat} {widths : List Nat} {cells : List Rect}
    (h : cellsFrom area x y widths = .ok cells) : cells.Pairwise Rect.Precedes := by
  induction widths generalizing x y cells with
  | nil =>
    cases h
    exact List.Pairwise.nil
  | cons width widths ih =>
    simp only [cellsFrom, Fault.bind_eq_ok_iff] at h
    obtain ⟨step, hstep, rest, hrest, h⟩ := h
    cases h
    refine List.pairwise_cons.mpr ⟨fun cell hcell => ?_, ih hrest⟩
    -- The step to the next column is the width and the gap, so it passes the right edge.
    have step_eq : step = width + gap := (sum_eq_ok_iff.mp hstep).2
    have bounds := bounds_of_mem_cellsFrom hrest cell hcell
    generalize place area x y width = corner at bounds
    simp only [Rect.Precedes, Rect.clamped, Rect.right, Rect.bottom, Screen.add, chipHeight,
      rowGap, gap] at bounds step_eq ⊢
    clear ih hrest hstep
    generalize Screen.last = last at *
    omega

/-- The cells of a layout come one after another. -/
theorem precedes_cells {area : Rect} {labels : List String} {cells : List Rect}
    (h : Flow.cells area labels = .ok cells) : cells.Pairwise Rect.Precedes :=
  precedes_cellsFrom h

/-! ## §3 The layout without an end -/

/-- Where a chip goes in an area without end: columns from the left edge,
the number of its row, and its width. -/
structure Slot where
  column : Nat
  row : Nat
  width : Nat
  deriving DecidableEq

/-- The slots of chips of given widths when column `x` of row `row` comes
next, in rows of `room` columns. -/
def slotsFrom (room x row : Nat) : List Nat → List Slot
  | [] => []
  | width :: widths =>
    if 0 < x ∧ room < x + width then
      ⟨0, row + 1, width⟩ :: slotsFrom room (width + gap) (row + 1) widths
    else ⟨x, row, width⟩ :: slotsFrom room (x + width + gap) row widths

/-- The slots of chips of given widths in rows of `room` columns. -/
def slots (room : Nat) (widths : List Nat) : List Slot :=
  slotsFrom room 0 0 widths

/-- The cell of a slot in an area. -/
def Slot.cell (area : Rect) (slot : Slot) : Rect :=
  .clamped (area.x + slot.column) (Screen.add area.y ((chipHeight + rowGap) * slot.row)) slot.width
    chipHeight

/-- No slot is wider than its row has columns left. -/
theorem Slot.column_add_width_le {room x row : Nat} {widths : List Nat}
    (fit : ∀ width ∈ widths, width ≤ room) :
    ∀ slot ∈ slotsFrom room x row widths, slot.column + slot.width ≤ room := by
  induction widths generalizing x row with
  | nil => simp [slotsFrom]
  | cons width widths ih =>
    obtain ⟨fits, fit⟩ := List.forall_mem_cons.mp fit
    simp only [slotsFrom]
    split
    · refine List.forall_mem_cons.mpr ⟨?_, ih fit⟩
      simpa using fits
    · refine List.forall_mem_cons.mpr ⟨?_, ih fit⟩
      dsimp only
      omega

/-- In a row `s` ends before `t` begins, with a free column between; or
`s` is in a row above `t`. -/
def Slot.Before (s t : Slot) : Prop :=
  s.row = t.row ∧ s.column + s.width + gap ≤ t.column ∨ s.row < t.row

theorem bounds_of_mem_slotsFrom {room x row : Nat} {widths : List Nat} :
    ∀ slot ∈ slotsFrom room x row widths,
      slot.row = row ∧ x ≤ slot.column ∨ row < slot.row := by
  induction widths generalizing x row with
  | nil => simp [slotsFrom]
  | cons width widths ih =>
    simp only [slotsFrom]
    split
    · refine List.forall_mem_cons.mpr ⟨.inr (Nat.lt_succ_self row), fun slot hslot => ?_⟩
      have := ih slot hslot
      omega
    · refine List.forall_mem_cons.mpr ⟨.inl ⟨rfl, Nat.le_refl x⟩, fun slot hslot => ?_⟩
      have := ih slot hslot
      omega

/-- The slots come in reading order. -/
theorem pairwise_slotsFrom (room x row : Nat) (widths : List Nat) :
    (slotsFrom room x row widths).Pairwise Slot.Before := by
  induction widths generalizing x row with
  | nil => exact List.Pairwise.nil
  | cons width widths ih =>
    simp only [slotsFrom]
    split
    · refine List.pairwise_cons.mpr ⟨fun slot hslot => ?_, ih _ _⟩
      have := bounds_of_mem_slotsFrom slot hslot
      simp only [Slot.Before]
      omega
    · refine List.pairwise_cons.mpr ⟨fun slot hslot => ?_, ih _ _⟩
      have := bounds_of_mem_slotsFrom slot hslot
      simp only [Slot.Before]
      omega

/-- No row is left out. -/
theorem exists_mem_slotsFrom {room x row : Nat} {widths : List Nat} {slot : Slot}
    (hslot : slot ∈ slotsFrom room x row widths) {k : Nat} (above : row < k) (hk : k ≤ slot.row) :
    ∃ other ∈ slotsFrom room x row widths, other.row = k := by
  induction widths generalizing x row with
  | nil => simp [slotsFrom] at hslot
  | cons width widths ih =>
    simp only [slotsFrom] at hslot ⊢
    split at hslot
    · rename_i next
      rw [if_pos next]
      by_cases first : k = row + 1
      · exact ⟨_, List.mem_cons_self, first.symm⟩
      · rcases List.mem_cons.mp hslot with rfl | hslot
        · dsimp only at hk
          omega
        · obtain ⟨other, hother, hrow⟩ := ih hslot (by omega)
          exact ⟨other, List.mem_cons_of_mem _ hother, hrow⟩
    · rename_i same
      rw [if_neg same]
      rcases List.mem_cons.mp hslot with rfl | hslot
      · dsimp only at hk
        omega
      · obtain ⟨other, hother, hrow⟩ := ih hslot above
        exact ⟨other, List.mem_cons_of_mem _ hother, hrow⟩

/-- The rows of the slots are numbered from 0 without a gap. -/
theorem exists_mem_slots {room : Nat} {widths : List Nat} {slot : Slot}
    (hslot : slot ∈ slots room widths) {k : Nat} (hk : k ≤ slot.row) :
    ∃ other ∈ slots room widths, other.row = k := by
  rcases Nat.eq_zero_or_pos k with rfl | above
  · cases widths with
    | nil => simp [slots, slotsFrom] at hslot
    | cons width widths => exact ⟨⟨0, 0, width⟩, by simp [slots, slotsFrom], rfl⟩
  · exact exists_mem_slotsFrom hslot above hk

/-! ## §4 The layout in an area -/

theorem add_add (a b c : Nat) : Screen.add (Screen.add a b) c = Screen.add a (b + c) := by
  simp only [Screen.add]
  omega

theorem add_of_le {a b : Nat} (h : a + b ≤ Screen.last) : Screen.add a b = a + b :=
  Nat.min_eq_left h

/-- In an area that ends before the last column, the cells of chips no
wider than the area are those of the slots. -/
theorem cellsFrom_eq {area : Rect} (ends : area.x + area.width < Screen.last) {widths : List Nat}
    (fit : ∀ width ∈ widths, width ≤ area.width) (x row : Nat) (hx : x ≤ area.width + gap) :
    cellsFrom area (area.x + x) (Screen.add area.y ((chipHeight + rowGap) * row)) widths =
      .ok ((slotsFrom area.width x row widths).map (Slot.cell area)) := by
  induction widths generalizing x row with
  | nil => rfl
  | cons width widths ih =>
    obtain ⟨fits, fit⟩ := List.forall_mem_cons.mp fit
    have step : sum width gap = .ok (width + gap) :=
      sum_eq_ok_iff.mpr ⟨by simp only [gap]; omega, rfl⟩
    have right : area.right = area.x + area.width := Nat.min_eq_left (Nat.le_of_lt ends)
    have wraps : area.x < area.x + x ∧ area.right < Screen.add (area.x + x) width ↔
        0 < x ∧ area.width < x + width := by
      rw [right, Screen.add]
      generalize Screen.last = last at ends
      omega
    by_cases next : 0 < x ∧ area.width < x + width
    · have column : Screen.add area.x (width + gap) = area.x + (width + gap) :=
        add_of_le (by simp only [gap]; omega)
      have rest := ih fit (width + gap) (row + 1) (by omega)
      rw [← column, Nat.mul_succ, ← add_add area.y] at rest
      simp only [cellsFrom, place, if_pos (wraps.mpr next), slotsFrom, if_pos next,
        Fault.bind_eq_ok_iff]
      refine ⟨_, step, _, rest, ?_⟩
      simp [Slot.cell, Nat.mul_succ, add_add]
    · have column : Screen.add (area.x + x) (width + gap) = area.x + (x + width + gap) := by
        rw [add_of_le (by simp only [gap]; omega)]
        omega
      have rest := ih fit (x + width + gap) row (by omega)
      rw [← column] at rest
      simp only [cellsFrom, place, if_neg (mt wraps.mp next), slotsFrom, if_neg next,
        Fault.bind_eq_ok_iff]
      exact ⟨_, step, _, rest, rfl⟩

theorem widthIn_of_wide {area : Rect} (wide : 1 ≤ area.width) (label : String) :
    widthIn area label = min (Label.chipWidth label) area.width := by
  rw [widthIn, Nat.max_eq_left wide]

theorem widthIn_le {area : Rect} (wide : 1 ≤ area.width) (labels : List String) :
    ∀ width ∈ labels.map (widthIn area), width ≤ area.width := by
  simp only [List.forall_mem_map, widthIn]
  omega

/-- In an area that has a column and ends before the last one, the cells
are those of the slots. -/
theorem cells_eq {area : Rect} (wide : 1 ≤ area.width) (ends : area.x + area.width < Screen.last)
    (top : area.y ≤ Screen.last) (labels : List String) :
    Flow.cells area labels =
      .ok ((slots area.width (labels.map (widthIn area))).map (Slot.cell area)) := by
  have first : Screen.add area.y ((chipHeight + rowGap) * 0) = area.y := add_of_le top
  have laid := cellsFrom_eq ends (widthIn_le wide labels) 0 0 (Nat.zero_le _)
  rwa [first] at laid

/-! ## §5 The rows that a layout needs -/

theorem foldl_max_le_iff (numbers : List Nat) (first bound : Nat) :
    numbers.foldl max first ≤ bound ↔ first ≤ bound ∧ ∀ n ∈ numbers, n ≤ bound := by
  induction numbers generalizing first with
  | nil => simp
  | cons n numbers ih =>
    rw [List.foldl_cons, ih, List.forall_mem_cons, Nat.max_le, and_assoc]

theorem height_le_iff {area : Rect} {cells : List Rect} {rows : Nat} :
    height area cells ≤ rows ↔ ∀ cell ∈ cells, cell.bottom ≤ area.y + rows := by
  rw [height, Nat.sub_le_iff_le_add', foldl_max_le_iff, List.forall_mem_map]
  exact and_iff_right (Nat.zero_le _)

/-- The rows of an area down to the lower edge of a slot. -/
def Slot.depth (slot : Slot) : Nat :=
  (chipHeight + rowGap) * slot.row + chipHeight

theorem Slot.bottom_cell (area : Rect) (slot : Slot) :
    (slot.cell area).bottom = Screen.add area.y slot.depth := by
  simp only [cell, Rect.clamped, Rect.bottom, depth, Screen.add]
  omega

/-- A slot is within an area just when it ends in one of its rows; but one
that begins after the last row of all is cut down to nothing, which is
within any area. -/
theorem Slot.isWithin_cell_iff {area : Rect} {slot : Slot}
    (ends : area.x + area.width < Screen.last) (low : area.y + area.height < Screen.last)
    (fits : slot.column + slot.width ≤ area.width) :
    (slot.cell area).isWithin area = true ↔
      slot.depth ≤ area.height ∨ Screen.last ≤ area.y + (chipHeight + rowGap) * slot.row := by
  rw [Rect.isWithin_iff]
  simp only [cell, Rect.clamped, Rect.right, Rect.bottom, depth, chipHeight, rowGap, Screen.add]
  generalize Screen.last = last at *
  omega

/-- The slots of chips in an area are all within it just when they end in
its rows. If a slot is so low that nothing of it is left, then one above
it passes the area's lower edge. -/
theorem isWithin_slots_iff {area : Rect} (ends : area.x + area.width < Screen.last)
    (low : area.y + area.height + 1 < Screen.last) {widths : List Nat}
    (fit : ∀ width ∈ widths, width ≤ area.width) :
    (∀ slot ∈ slots area.width widths, (slot.cell area).isWithin area = true) ↔
      ∀ slot ∈ slots area.width widths, slot.depth ≤ area.height := by
  have isWithin_iff : ∀ slot ∈ slots area.width widths, _ := fun slot hslot =>
    Slot.isWithin_cell_iff ends (Nat.lt_of_succ_lt low) (Slot.column_add_width_le fit slot hslot)
  constructor
  · refine fun within slot hslot => Nat.le_of_not_lt fun deep => ?_
    obtain ⟨passing, hpassing, row⟩ : ∃ passing ∈ slots area.width widths,
        passing.row = (area.height + 1) / 4 := by
      refine exists_mem_slots hslot ?_
      simp only [Slot.depth, chipHeight, rowGap] at deep
      omega
    have fits := (isWithin_iff passing hpassing).mp (within passing hpassing)
    simp only [Slot.depth, chipHeight, rowGap, row] at fits
    generalize Screen.last = last at *
    omega
  · exact fun depths slot hslot => (isWithin_iff slot hslot).mpr (.inl (depths slot hslot))

/-- The same chips in an area of the same width at the origin need as many
rows: the cells are all within an area just when its height is enough. -/
theorem isWithin_iff_height_le {area : Rect} (wide : 1 ≤ area.width)
    (ends : area.x + area.width < Screen.last) (low : area.y + area.height + 1 < Screen.last)
    {labels : List String} {cells atOrigin : List Rect} (laid : Flow.cells area labels = .ok cells)
    (measured : Flow.cells ⟨0, 0, area.width, 0⟩ labels = .ok atOrigin) :
    (∀ cell ∈ cells, cell.isWithin area = true) ↔
      height ⟨0, 0, area.width, 0⟩ atOrigin ≤ area.height := by
  let origin : Rect := ⟨0, 0, area.width, 0⟩
  have narrow : origin.x + origin.width < Screen.last := by
    simp only [origin]
    omega
  have top : area.y ≤ Screen.last := by omega
  cases (cells_eq wide ends top labels).symm.trans laid
  cases (@cells_eq origin wide narrow (Nat.zero_le _) labels).symm.trans measured
  rw [List.forall_mem_map, isWithin_slots_iff ends low (widthIn_le wide labels), height_le_iff,
    List.forall_mem_map]
  refine forall₂_congr fun slot _ => ?_
  rw [Slot.bottom_cell]
  simp only [Screen.add, origin]
  omega

/-- Chips need at least the rows of one. -/
theorem chipHeight_le_height {width : Nat} (wide : 1 ≤ width) (narrow : width < Screen.last)
    {labels : List String} (some : labels ≠ []) {cells : List Rect}
    (laid : Flow.cells ⟨0, 0, width, 0⟩ labels = .ok cells) :
    chipHeight ≤ height ⟨0, 0, width, 0⟩ cells := by
  let origin : Rect := ⟨0, 0, width, 0⟩
  have ends : origin.x + origin.width < Screen.last := by
    simpa [origin] using narrow
  cases (@cells_eq origin wide ends (Nat.zero_le _) labels).symm.trans laid
  obtain ⟨label, labels, rfl⟩ := List.exists_cons_of_ne_nil some
  have first : Slot.cell origin ⟨0, 0, widthIn origin label⟩ ∈
      (slots width ((label :: labels).map (widthIn origin))).map (Slot.cell origin) :=
    List.mem_map_of_mem (by simp [slots, slotsFrom])
  have bottom := height_le_iff.mp (Nat.le_refl (height origin _)) _ first
  have lowest : Screen.add origin.y (Slot.depth ⟨0, 0, widthIn origin label⟩) = chipHeight := rfl
  rw [Slot.bottom_cell, lowest] at bottom
  simpa [origin] using bottom

end Flow

end FilterChips

/-
FilterChips.Proofs.Screen.FewestRows — the flow layout takes no more rows
than any other way to cut the chips into rows.

A cut is a list of rows, none of them empty, that together are the labels
in their order; in each row the chips fit side by side with a free column
between them. The layout makes one of its own (`exists_isCut`). That no
other one has fewer rows is shown by going through the chips once, with
the layout and the other cut side by side: the layout is never behind. It
is in a row above the cut's, or in the same row and no further to the
right, and one chip more does not change that (`slotsFrom_cons_of_ahead`).
For where the cut still has room, so has the layout; and where the layout
begins a row, it was in a row above.

In wider rows the chips may be wider themselves, as they are no longer
clipped. Still a row that fits in few columns fits in more
(`FitsIn.mono`): a clipped chip has its row for itself.
-/
import FilterChips.Proofs.Screen.WholeRows
import Mathlib.Algebra.Order.BigOperators.Group.List
import Mathlib.Algebra.Order.Ring.Nat
import Mathlib.Order.Bounds.Basic

namespace FilterChips

namespace Flow

/-! ## §1 The number of rows -/

/-- The rows that chips of given widths take in the layout without an end. -/
def rowsTaken (room : Nat) (widths : List Nat) : Nat :=
  ((slots room widths).map fun slot => slot.row + 1).foldl max 0

theorem rowsTaken_le_iff {room rows : Nat} {widths : List Nat} :
    rowsTaken room widths ≤ rows ↔ ∀ slot ∈ slots room widths, slot.row < rows := by
  rw [rowsTaken, foldl_max_le_iff, List.forall_mem_map]
  exact and_iff_right (Nat.zero_le _)

theorem lt_rowsTaken_iff {room k : Nat} {widths : List Nat} :
    k < rowsTaken room widths ↔ ∃ slot ∈ slots room widths, slot.row = k := by
  constructor
  · intro h
    by_contra missing
    refine Nat.not_le.mpr h (rowsTaken_le_iff.mpr fun slot hslot => Nat.lt_of_not_le fun below => ?_)
    exact missing (exists_mem_slots hslot below)
  · rintro ⟨slot, hslot, rfl⟩
    exact rowsTaken_le_iff.mp (Nat.le_refl _) slot hslot

/-- With further chips behind them, chips are laid out as before. -/
theorem slotsFrom_prefix_append (room x row : Nat) (widths more : List Nat) :
    slotsFrom room x row widths <+: slotsFrom room x row (widths ++ more) := by
  induction widths generalizing x row with
  | nil => exact List.nil_prefix
  | cons width widths ih =>
    simp only [List.cons_append, slotsFrom]
    split
    · exact (List.prefix_cons_inj _).mpr (ih _ _)
    · exact (List.prefix_cons_inj _).mpr (ih _ _)

theorem rowsTaken_le_append (room : Nat) (widths more : List Nat) :
    rowsTaken room widths ≤ rowsTaken room (widths ++ more) :=
  rowsTaken_le_iff.mpr fun slot hslot =>
    lt_rowsTaken_iff.mpr ⟨slot, (slotsFrom_prefix_append room 0 0 widths more).subset hslot, rfl⟩

/-! ## §2 Cuts -/

/-- The width of a chip in rows of `room` columns. -/
def clip (room : Nat) (label : String) : Nat :=
  min (Label.chipWidth label) room

/-- Chips fit side by side in a row of `room` columns. -/
def FitsIn (room : Nat) (row : List String) : Prop :=
  (row.map (clip room)).sum + gap * (row.length - 1) ≤ room

/-- A way to cut labels into rows of `room` columns. -/
structure IsCut (room : Nat) (labels : List String) (cut : List (List String)) : Prop where
  flatten : cut.flatten = labels
  ne_nil : ∀ row ∈ cut, row ≠ []
  fits : ∀ row ∈ cut, FitsIn room row

/-- With a gap behind the last chip, too, a row is easier to build up. -/
theorem fitsIn_cons_iff {room : Nat} {label : String} {row : List String} :
    FitsIn room (label :: row) ↔
      clip room label + gap + ((row.map (clip room)).sum + gap * row.length) ≤ room + gap := by
  simp only [FitsIn, List.map_cons, List.sum_cons, List.length_cons, gap]
  omega

theorem FitsIn.sum_add_le {room : Nat} {row : List String} (h : FitsIn room row) :
    (row.map (clip room)).sum + gap * row.length ≤ room + gap := by
  simp only [FitsIn, gap] at h ⊢
  omega

/-- What fits in a row fits in a wider one. -/
theorem FitsIn.mono {narrow wide : Nat} (le : narrow ≤ wide) {row : List String}
    (h : FitsIn narrow row) : FitsIn wide row := by
  match row with
  | [] => exact Nat.zero_le _
  | [label] =>
    simp only [FitsIn, List.map_cons, List.map_nil, List.sum_cons, List.sum_nil, clip,
      List.length_singleton, gap]
    omega
  | first :: second :: row =>
    -- None of two or more chips is clipped, for it would leave no column for the gap.
    have sum_le : ∀ label ∈ first :: second :: row, clip wide label ≤ clip narrow label := by
      intro label hlabel
      have part := List.single_le_sum (fun _ _ => Nat.zero_le _) _
        (List.mem_map_of_mem (f := clip narrow) hlabel)
      simp only [FitsIn, List.length_cons, gap] at h
      simp only [clip] at part h ⊢
      omega
    have total := List.sum_le_sum sum_le
    simp only [FitsIn, List.length_cons] at h ⊢
    omega

/-! ## §3 The layout is never behind -/

section Ahead

variable {room x row x' row' : Nat}

/-- Let the layout go on at column `x` of row `row` and a cut at column `x'`
of row `row'`, and let the layout not be behind. When the cut puts a chip
into its row, the layout puts it no lower and is not behind afterwards. -/
theorem slotsFrom_cons_of_ahead {width : Nat} (ahead : row < row' ∨ row = row' ∧ x ≤ x')
    (fits : x' + width ≤ room) (widths : List Nat) :
    ∃ column y r,
      slotsFrom room x row (width :: widths) = ⟨column, r, width⟩ :: slotsFrom room y r widths ∧
      (r < row' ∨ r = row' ∧ y ≤ x' + width + gap) := by
  simp only [slotsFrom]
  split
  · exact ⟨_, _, _, rfl, by omega⟩
  · exact ⟨_, _, _, rfl, by omega⟩

/-- So it is at the end of the cut's row, and what holds from there on is
all that counts. -/
theorem row_le_of_row {current rest : List Nat} {bound : Nat}
    (ahead : row < row' ∨ row = row' ∧ x ≤ x')
    (fits : x' + (current.sum + gap * current.length) ≤ room + gap) (above : row' ≤ bound)
    (further : ∀ y r, r ≤ row' → ∀ slot ∈ slotsFrom room y r rest, slot.row ≤ bound) :
    ∀ slot ∈ slotsFrom room x row (current ++ rest), slot.row ≤ bound := by
  induction current generalizing x row x' with
  | nil => exact further x row (by omega)
  | cons width current ih =>
    simp only [List.sum_cons, List.length_cons, gap] at fits
    obtain ⟨column, y, r, laid, still⟩ :=
      slotsFrom_cons_of_ahead ahead (by omega : x' + width ≤ room) (current ++ rest)
    rw [List.cons_append, laid]
    refine List.forall_mem_cons.mpr ⟨?_, ih still ?_⟩
    · dsimp only
      omega
    · simp only [gap]
      omega

/-- Row by row, it is never behind. -/
theorem row_le_of_rows {later : List (List Nat)}
    (fits : ∀ r ∈ later, r.sum + gap * r.length ≤ room + gap) (above : row ≤ row') :
    ∀ slot ∈ slotsFrom room x row later.flatten, slot.row ≤ row' + later.length := by
  induction later generalizing x row row' with
  | nil => simp [slotsFrom]
  | cons next later ih =>
    obtain ⟨here, fits⟩ := List.forall_mem_cons.mp fits
    -- The cut begins its next row, and the layout is in a row above.
    have ahead : row < row' + 1 ∨ row = row' + 1 ∧ x ≤ 0 := .inl (Nat.lt_succ_of_le above)
    rw [List.flatten_cons, List.length_cons, ← Nat.add_assoc, Nat.add_right_comm]
    refine row_le_of_row ahead ?_ (Nat.le_add_right ..) fun y r hr => ?_
    · rwa [Nat.zero_add]
    · exact ih fits hr

end Ahead

/-- No cut has fewer rows than the layout. -/
theorem IsCut.rowsTaken_le_length {room : Nat} {labels : List String} {cut : List (List String)}
    (h : IsCut room labels cut) : rowsTaken room (labels.map (clip room)) ≤ cut.length := by
  refine rowsTaken_le_iff.mpr ?_
  rw [← h.flatten, List.map_flatten]
  cases cut with
  | nil => simp [slots, slotsFrom]
  | cons first later =>
    obtain ⟨here, fits⟩ := List.forall_mem_cons.mp h.fits
    have widths : ∀ r ∈ later.map (List.map (clip room)),
        r.sum + gap * r.length ≤ room + gap := by
      refine List.forall_mem_map.mpr fun row hrow => ?_
      rw [List.length_map]
      exact (fits row hrow).sum_add_le
    intro slot hslot
    refine Nat.lt_succ_of_le (row_le_of_row (.inr ⟨rfl, Nat.le_refl 0⟩) ?_ (Nat.zero_le _)
      (fun y r hr => ?_) slot hslot)
    · rw [Nat.zero_add, List.length_map]
      exact here.sum_add_le
    · simpa using row_le_of_rows (x := y) widths hr

/-! ## §4 The cut of the layout -/

/-- When column `x` of a row comes next, the layout cuts what remains into
the rest of that row and further rows, down to the row of a slot. -/
theorem exists_rows (room x row : Nat) (labels : List String) (within : x ≤ room + gap) :
    ∃ current later, current ++ later.flatten = labels ∧
      x + ((current.map (clip room)).sum + gap * current.length) ≤ room + gap ∧
      (∀ r ∈ later, r ≠ [] ∧ FitsIn room r) ∧
      (later = [] ∨ ∃ slot ∈ slotsFrom room x row (labels.map (clip room)),
        slot.row = row + later.length) := by
  induction labels generalizing x row with
  | nil => exact ⟨[], [], rfl, by simpa using within, by simp, .inl rfl⟩
  | cons label labels ih =>
    have clipped : clip room label ≤ room := Nat.min_le_right ..
    rw [List.map_cons]
    simp only [slotsFrom]
    split
    · -- The chip begins a row, and what was the rest of a row is empty.
      obtain ⟨current, later, flatten, here, rows, lowest⟩ :=
        ih (clip room label + gap) (row + 1) (by omega)
      refine ⟨[], (label :: current) :: later, by simp [flatten], by simpa using within, ?_,
        .inr ?_⟩
      · exact List.forall_mem_cons.mpr ⟨⟨List.cons_ne_nil _ _, fitsIn_cons_iff.mpr here⟩, rows⟩
      · rcases lowest with rfl | ⟨slot, hslot, hrow⟩
        · exact ⟨_, List.mem_cons_self, rfl⟩
        · refine ⟨slot, List.mem_cons_of_mem _ hslot, ?_⟩
          rw [hrow, List.length_cons]
          omega
    · -- The chip goes on with the row.
      obtain ⟨current, later, flatten, here, rows, lowest⟩ :=
        ih (x + clip room label + gap) row (by omega)
      refine ⟨label :: current, later, by simp [flatten], ?_, rows, ?_⟩
      · simp only [List.map_cons, List.sum_cons, List.length_cons, gap] at here ⊢
        omega
      · rcases lowest with rfl | ⟨slot, hslot, hrow⟩
        · exact .inl rfl
        · exact .inr ⟨slot, List.mem_cons_of_mem _ hslot, hrow⟩

/-- The layout is a cut itself. -/
theorem exists_isCut (room : Nat) (labels : List String) :
    ∃ cut, IsCut room labels cut ∧ cut.length = rowsTaken room (labels.map (clip room)) := by
  cases labels with
  | nil => exact ⟨[], ⟨rfl, by simp, by simp⟩, rfl⟩
  | cons label labels =>
    have clipped : clip room label ≤ room := Nat.min_le_right ..
    obtain ⟨current, later, flatten, here, rows, lowest⟩ :=
      exists_rows room (clip room label + gap) 0 labels (by omega)
    have isCut : IsCut room (label :: labels) ((label :: current) :: later) :=
      { flatten := by simp [flatten]
        ne_nil := List.forall_mem_cons.mpr ⟨List.cons_ne_nil _ _, fun r hr => (rows r hr).1⟩
        fits := List.forall_mem_cons.mpr ⟨fitsIn_cons_iff.mpr here, fun r hr => (rows r hr).2⟩ }
    refine ⟨_, isCut, Nat.le_antisymm (lt_rowsTaken_iff.mpr ?_) isCut.rowsTaken_le_length⟩
    have first : slots room ((label :: labels).map (clip room)) =
        ⟨0, 0, clip room label⟩ ::
          slotsFrom room (clip room label + gap) 0 (labels.map (clip room)) := by
      simp [slots, slotsFrom]
    rw [first]
    rcases lowest with rfl | ⟨slot, hslot, hrow⟩
    · exact ⟨_, List.mem_cons_self, rfl⟩
    · exact ⟨slot, List.mem_cons_of_mem _ hslot, by simpa using hrow⟩

/-! ## §5 Fewest rows -/

/-- The layout takes as many rows as the best cut has. -/
theorem isLeast_rowsTaken (room : Nat) (labels : List String) :
    IsLeast {rows | ∃ cut, IsCut room labels cut ∧ cut.length = rows}
      (rowsTaken room (labels.map (clip room))) := by
  refine ⟨exists_isCut room labels, ?_⟩
  rintro rows ⟨cut, isCut, rfl⟩
  exact isCut.rowsTaken_le_length

/-- More columns never take more rows. -/
theorem rowsTaken_anti {narrow wide : Nat} (le : narrow ≤ wide) (labels : List String) :
    rowsTaken wide (labels.map (clip wide)) ≤ rowsTaken narrow (labels.map (clip narrow)) := by
  obtain ⟨cut, isCut, length⟩ := exists_isCut narrow labels
  have wider : IsCut wide labels cut :=
    ⟨isCut.flatten, isCut.ne_nil, fun row hrow => (isCut.fits row hrow).mono le⟩
  rw [← length]
  exact wider.rowsTaken_le_length

/-- The rows counted on the screen are those taken. -/
theorem rowCount_eq_rowsTaken {area : Rect} (wide : 1 ≤ area.width)
    (ends : area.x + area.width < Screen.last) (top : area.y ≤ Screen.last)
    {labels : List String} {cells : List Rect} (laid : Flow.cells area labels = .ok cells)
    (low : area.y + 4 * rowCount cells - 1 ≤ Screen.last) :
    rowCount cells = rowsTaken area.width (labels.map (clip area.width)) := by
  have widths : labels.map (widthIn area) = labels.map (clip area.width) :=
    List.map_congr_left fun label _ => widthIn_of_wide wide label
  rw [cells_eq_whole wide ends top laid low, widths]
  exact rowCount_map_whole area fun k => lt_rowsTaken_iff

end Flow

end FilterChips

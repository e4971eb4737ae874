/-
FilterChips.Proofs.View.Growth — the rows of the board, and how they change
with its width and its chips.

The board measures its chips by a layout at the origin, as wide as the
board is within its border. Its height depends on nothing but the number
of rows that the layout takes (`boardHeight_eq_ok_iff_rows`), and that is
the fewest possible. So what is known of cuts carries over: more columns
never make the board higher, and a chip more never makes it lower.

A board of two columns or less has none within its border. A chip is then
taken to be one column wide, and so each has its row, which is what a
single column would do (`cells_without_column`).
-/
import FilterChips.Proofs.Screen.FewestRows
import FilterChips.Proofs.View.Room

namespace FilterChips

/-! ## §1 The measured height -/

namespace Flow

/-- At the origin, the height of a layout tells its rows, as long as the
screen has them. -/
theorem height_map_cell (room : Nat) (widths : List Nat) :
    let origin : Rect := ⟨0, 0, room, 0⟩
    height origin ((slots room widths).map (Slot.cell origin)) =
      min (4 * rowsTaken room widths - 1) Screen.last := by
  intro origin
  have bottom_eq : ∀ slot : Slot, (slot.cell origin).bottom = min (4 * slot.row + 3) Screen.last := by
    intro slot
    rw [Slot.bottom_cell, Screen.add, Nat.zero_add, Slot.depth]
    rfl
  refine Nat.le_antisymm (height_le_iff.mpr ?_) ?_
  · refine List.forall_mem_map.mpr fun slot hslot => ?_
    have above := lt_rowsTaken_iff.mpr ⟨slot, hslot, rfl⟩
    rw [bottom_eq]
    simp only [origin]
    omega
  · rcases Nat.eq_zero_or_pos (rowsTaken room widths) with none | some
    · simp [none]
    · -- The lowest row has a slot, which the height reaches.
      obtain ⟨slot, hslot, lowest⟩ := lt_rowsTaken_iff.mp (Nat.sub_one_lt_of_lt some)
      have reached := height_le_iff.mp (Nat.le_refl (height origin _)) _
        (List.mem_map_of_mem (f := Slot.cell origin) hslot)
      rw [bottom_eq, lowest] at reached
      simp only [origin] at reached ⊢
      omega

theorem one_le_chipWidth (label : String) : 1 ≤ Label.chipWidth label := by
  simp only [Label.chipWidth, Screen.add, Label.chrome, Screen.last]
  omega

theorem cellsFrom_without_column {widths : List Nat} (single : ∀ width ∈ widths, width = 1)
    (x y : Nat) : cellsFrom ⟨0, 0, 0, 0⟩ x y widths = cellsFrom ⟨0, 0, 1, 0⟩ x y widths := by
  induction widths generalizing x y with
  | nil => rfl
  | cons width widths ih =>
    obtain ⟨one, others⟩ := List.forall_mem_cons.mp single
    have place_eq : place ⟨0, 0, 0, 0⟩ x y 1 = place ⟨0, 0, 1, 0⟩ x y 1 := by
      have fits : (0 < x ∧ 0 < Screen.add x 1) ↔ (0 < x ∧ 1 < Screen.add x 1) := by
        simp only [Screen.add, Screen.last]
        omega
      exact if_congr fits rfl rfl
    simp only [cellsFrom, one, place_eq, ih others]

/-- Without a column chips are laid out as in a single one. -/
theorem cells_without_column (labels : List String) :
    Flow.cells ⟨0, 0, 0, 0⟩ labels = Flow.cells ⟨0, 0, 1, 0⟩ labels := by
  refine cellsFrom_without_column (List.forall_mem_map.mpr fun label _ => ?_) 0 0
  exact Nat.min_eq_right (one_le_chipWidth label)

end Flow

/-! ## §2 The height of the board -/

/-- The columns for chips on a board; there is always one. -/
def roomOn (width : Nat) : Nat :=
  max (width - 2) 1

/-- The rows of chips on a board. -/
def rowsOn (chips : List Chip) (width : Nat) : Nat :=
  Flow.rowsTaken (roomOn width) ((chips.map Chip.label).map (Flow.clip (roomOn width)))

theorem rowsWithin_eq {width : Nat} (widest : width ≤ Screen.last) (chips : List Chip) :
    rowsWithin chips width = .ok (min (4 * rowsOn chips width - 1) Screen.last) := by
  let origin : Rect := ⟨0, 0, roomOn width, 0⟩
  have wide : 1 ≤ origin.width := Nat.le_max_right ..
  have ends : origin.x + origin.width < Screen.last := by
    simp only [origin, roomOn, Screen.last] at widest ⊢
    omega
  have widths : (chips.map Chip.label).map (Flow.widthIn origin) =
      (chips.map Chip.label).map (Flow.clip (roomOn width)) :=
    List.map_congr_left fun label _ => Flow.widthIn_of_wide wide label
  have laid := Flow.cells_eq wide ends (Nat.zero_le _) (chips.map Chip.label)
  rw [widths] at laid
  have same : Flow.cells ⟨0, 0, width - 2, 0⟩ (chips.map Chip.label) =
      Flow.cells origin (chips.map Chip.label) := by
    rcases Nat.eq_zero_or_pos (width - 2) with none | some
    · simp only [origin, roomOn, none]
      exact Flow.cells_without_column _
    · rw [← Nat.max_eq_left some]
      rfl
  refine rowsWithin_eq_ok_iff.mpr ⟨_, same.trans laid, ?_⟩
  exact (Flow.height_map_cell (roomOn width) _).symm

/-- The board needs four screen rows for each row of chips and one more,
but at least five; it can tell its height as long as there are so many. -/
theorem boardHeight_eq_ok_iff_rows {chips : List Chip} {width height : Nat}
    (widest : width ≤ Screen.last) :
    boardHeight chips width = .ok height ↔
      4 * rowsOn chips width + 1 ≤ Screen.last ∧ height = max (4 * rowsOn chips width + 1) 5 := by
  rw [boardHeight_eq_ok_iff, rowsWithin_eq widest]
  simp only [Except.ok.injEq, exists_eq_left', Flow.chipHeight, borderRows, Screen.last]
  omega

/-- Where other chips on a board of some other width take no more rows,
the board is no higher. -/
theorem exists_boardHeight_le {chips others : List Chip} {width width' height : Nat}
    (widest : width ≤ Screen.last) (widest' : width' ≤ Screen.last)
    (fewer : rowsOn others width' ≤ rowsOn chips width)
    (measured : boardHeight chips width = .ok height) :
    ∃ lower ≤ height, boardHeight others width' = .ok lower := by
  obtain ⟨room, rfl⟩ := (boardHeight_eq_ok_iff_rows widest).mp measured
  refine ⟨max (4 * rowsOn others width' + 1) 5, by omega, ?_⟩
  exact (boardHeight_eq_ok_iff_rows widest').mpr ⟨by omega, rfl⟩

/-! ## §3 Fewest rows -/

/-- **The flow layout takes the fewest rows**: in an area that has a column
and ends before the last one, any labels are laid out, and if the rows
counted end above the last row of the screen, their number is the least
that any cut of the labels into rows has. So a board whose height can be
told has one in any greater width, which is no greater; and without its
last chip, too, it has one that is no greater. -/
theorem layout_takes_fewest_rows :
    (∀ (area : Rect) (labels : List String), 1 ≤ area.width →
      area.x + area.width < Screen.last → area.y ≤ Screen.last →
      ∃ cells, Flow.cells area labels = .ok cells ∧
        (area.y + 4 * Flow.rowCount cells - 1 ≤ Screen.last →
          IsLeast {rows | ∃ cut, Flow.IsCut area.width labels cut ∧ cut.length = rows}
            (Flow.rowCount cells))) ∧
    (∀ (chips : List Chip) (narrow wide height : Nat), narrow ≤ wide → wide ≤ Screen.last →
      boardHeight chips narrow = .ok height →
      ∃ lower ≤ height, boardHeight chips wide = .ok lower) ∧
    (∀ (chips : List Chip) (chip : Chip) (width height : Nat), width ≤ Screen.last →
      boardHeight (chips ++ [chip]) width = .ok height →
      ∃ lower ≤ height, boardHeight chips width = .ok lower) := by
  refine ⟨fun area labels wide ends top => ?_, ?_, ?_⟩
  · have laid := Flow.cells_eq wide ends top labels
    refine ⟨_, laid, fun low => ?_⟩
    rw [Flow.rowCount_eq_rowsTaken wide ends top laid low]
    exact Flow.isLeast_rowsTaken area.width labels
  · intro chips narrow wide height le widest measured
    have more : roomOn narrow ≤ roomOn wide := by
      simp only [roomOn]
      omega
    exact exists_boardHeight_le (Nat.le_trans le widest) widest
      (Flow.rowsTaken_anti more (chips.map Chip.label)) measured
  · intro chips chip width height widest measured
    have fewer : rowsOn chips width ≤ rowsOn (chips ++ [chip]) width := by
      simp only [rowsOn, List.map_append]
      exact Flow.rowsTaken_le_append _ _ _
    exact exists_boardHeight_le widest widest fewer measured

/-- Three chips in twenty columns take two rows, and no cut does with one;
the board is lower by a row when it is wide enough for all of them, or
when the last one is missing. -/
theorem layout_takes_two_rows :
    let area : Rect := ⟨2, 1, 20, 20⟩
    let labels := ["pizza", "AND", "tacos"]
    let chips := [Chip.identifier "pizza", .condition .and]
    (1 ≤ area.width ∧ area.x + area.width < Screen.last ∧ area.y ≤ Screen.last) ∧
      (∃ cells, Flow.cells area labels = .ok cells ∧
        area.y + 4 * Flow.rowCount cells - 1 ≤ Screen.last ∧
        ∀ cut, Flow.IsCut area.width labels cut → 2 ≤ cut.length) ∧
      boardHeight (chips ++ [.identifier "tacos"]) 22 = .ok 9 ∧
      (∃ lower ≤ 9, boardHeight (chips ++ [.identifier "tacos"]) 40 = .ok lower) ∧
      ∃ lower ≤ 9, boardHeight chips 22 = .ok lower := by
  intro area labels chips
  obtain ⟨fewest, wider, shorter⟩ := layout_takes_fewest_rows
  have bounds : 1 ≤ area.width ∧ area.x + area.width < Screen.last ∧ area.y ≤ Screen.last := by
    decide
  obtain ⟨cells, laid, least⟩ := fewest area labels bounds.1 bounds.2.1 bounds.2.2
  let laidOut : List Rect := [⟨2, 1, 9, 3⟩, ⟨12, 1, 7, 3⟩, ⟨2, 5, 9, 3⟩]
  have values : Flow.cells area labels = .ok laidOut := by decide +kernel
  obtain rfl : laidOut = cells := Except.ok.inj (values.symm.trans laid)
  have low : area.y + 4 * Flow.rowCount laidOut - 1 ≤ Screen.last := by decide
  have two : Flow.rowCount laidOut = 2 := by decide
  have measured : boardHeight (chips ++ [.identifier "tacos"]) 22 = .ok 9 := by decide +kernel
  refine ⟨bounds, ⟨laidOut, laid, low, fun cut isCut => ?_⟩, measured, ?_, ?_⟩
  · rw [← two]
    exact (least low).2 ⟨cut, isCut, rfl⟩
  · exact wider _ 22 40 9 (by decide) (by decide) measured
  · exact shorter chips _ 22 9 (by decide) measured

end FilterChips

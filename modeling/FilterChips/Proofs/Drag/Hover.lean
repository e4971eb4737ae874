/-
FilterChips.Proofs.Drag.Hover — a chip over the left half of another one
goes before it, and over the right half behind it.

This is exact where coordinates are: here they are rational numbers, for
which the same functions compute the slot. Three things come together.

* The rows of the layout are four screen rows apart, so their tops are a
  whole number apart at least and round to different keys (`nearest_lt`):
  the rows of the drag surface are those of the screen.
* A pointer in a cell is below the reach of every row above it, since the
  tolerance is less than half the height of a chip. So the row found is
  that of the cell (`placeholderFor_eq`).
* Along a row the cells come one after another, and the pointer is in one
  of them: it has passed the middles of those before it, and not of those
  behind it.
-/
import FilterChips.Drag.Engine
import FilterChips.Proofs.Drag.Rows
import FilterChips.Proofs.Number.Double
import FilterChips.Proofs.Screen.WholeRows
import FilterChips.Screen.CellGeometry
import Mathlib.Analysis.Real.Sqrt
import Mathlib.Tactic.Linarith

namespace FilterChips

/-! ## §1 Exact coordinates -/

/-- Exact coordinates; rows are named by the nearest integer of 64 bits. -/
instance : Coordinate ℚ where
  ofNat n := n
  half q := q / 2
  shorterThan dx dy limit := decide (0 < limit ∧ dx ^ 2 + dy ^ 2 < limit ^ 2)
  rowKey q := max (-2 ^ 63) (min (2 ^ 63 - 1) (nearest q))
  decideLt := inferInstance
  decideLe := inferInstance

namespace Drag

/-- The straight distance of two points. -/
noncomputable def Point.exactDistance (p q : Point ℚ) : ℝ :=
  √(((p.x - q.x) ^ 2 + (p.y - q.y) ^ 2 : ℚ) : ℝ)

/-- A pointer rests near its start just when its distance is below the
threshold. -/
theorem Config.isResting_iff_exactDistance (config : Config ℚ) (start pointer : Point ℚ) :
    config.isResting start pointer = true ↔
      start.exactDistance pointer < config.distanceThreshold := by
  show decide _ = true ↔ _
  rw [decide_eq_true_eq]
  constructor
  · rintro ⟨positive, shorter⟩
    rw [Point.exactDistance, Real.sqrt_lt' (by exact_mod_cast positive)]
    exact_mod_cast shorter
  · intro shorter
    have positive : (0 : ℝ) < config.distanceThreshold :=
      (Real.sqrt_nonneg _).trans_lt shorter
    rw [Point.exactDistance, Real.sqrt_lt' positive] at shorter
    exact ⟨by exact_mod_cast positive, by exact_mod_cast shorter⟩

theorem Config.isResting_eq_false_iff (config : Config ℚ) (start pointer : Point ℚ) :
    config.isResting start pointer = false ↔
      config.distanceThreshold ≤ start.exactDistance pointer := by
  rw [Bool.eq_false_iff, Ne, isResting_iff_exactDistance, not_lt]

end Drag

/-! ## §2 Cells on the drag surface -/

namespace CellGeometry

variable (g : CellGeometry ℚ)

theorem point_x (column row : Nat) : (g.point column row).x = (column + 1 / 2) * g.cellWidth := by
  show ((column : ℚ) + ((1 : ℕ) : ℚ) / 2) * g.cellWidth = _
  rw [Nat.cast_one]

theorem point_y (column row : Nat) : (g.point column row).y = (row + 1 / 2) * g.cellHeight := by
  show ((row : ℚ) + ((1 : ℕ) : ℚ) / 2) * g.cellHeight = _
  rw [Nat.cast_one]

theorem top_chipRect (cell : Rect) : (g.chipRect cell).top = cell.y * g.cellHeight :=
  rfl

theorem bottom_chipRect (cell : Rect) :
    (g.chipRect cell).bottom = (cell.y + cell.height) * g.cellHeight := by
  show (cell.y : ℚ) * g.cellHeight + cell.height * g.cellHeight = _
  ring

theorem midX_chipRect (cell : Rect) :
    (g.chipRect cell).midX = (cell.x + cell.width / 2) * g.cellWidth := by
  show (cell.x : ℚ) * g.cellWidth +
    ((cell.x : ℚ) * g.cellWidth + cell.width * g.cellWidth - cell.x * g.cellWidth) / 2 = _
  ring

/-- Cells of such a size that rows keep apart on the drag surface: a
quarter high at least, so that tops of rows are 1 apart; with tops that
round to integers of 64 bits; and with a tolerance that is less than half
the height of a chip. -/
structure KeepsRows (g : CellGeometry ℚ) (config : Drag.Config ℚ) : Prop where
  wide : 0 < g.cellWidth
  tall : 1 / 4 ≤ g.cellHeight
  tops : ∀ cell ∈ g.cells, nearest (cell.y * g.cellHeight) ≤ 2 ^ 63 - 1
  steady : 0 ≤ config.rowTolerance
  apart : config.rowTolerance < 3 / 2 * g.cellHeight

section Rows

variable {g} {config : Drag.Config ℚ} (keeps : g.KeepsRows config)
  (ordered : g.cells.Pairwise Rect.ReadsBefore)
include keeps

theorem KeepsRows.height_pos : 0 < g.cellHeight :=
  lt_of_lt_of_le (by norm_num) keeps.tall

theorem rowKey_chipRect {cell : Rect} (hcell : cell ∈ g.cells) :
    (g.chipRect cell).rowKey = nearest (cell.y * g.cellHeight) := by
  have nonneg : 0 ≤ (cell.y : ℚ) * g.cellHeight :=
    mul_nonneg (Nat.cast_nonneg _) keeps.height_pos.le
  show max (-2 ^ 63) (min (2 ^ 63 - 1) (nearest (cell.y * g.cellHeight))) = _
  rw [min_eq_right (keeps.tops cell hcell), max_eq_right]
  exact le_trans (by norm_num) (nearest_nonneg nonneg)

/-! ## §3 The reach of the pointer -/

/-- A pointer in a cell is within reach of the cells of its row. -/
theorem reached_of_contains {cell r : Rect} {column row : Nat}
    (inCell : cell.contains column row = true) (hcell : cell.height = Flow.chipHeight)
    (hr : r.height = Flow.chipHeight) (level : r.y = cell.y) :
    (g.chipRect r).top - config.rowTolerance ≤ (g.point column row).y ∧
      (g.point column row).y ≤ (g.chipRect r).bottom + config.rowTolerance := by
  obtain ⟨-, -, top, bottom⟩ := (Rect.contains_iff ..).mp inCell
  have within : row + 1 ≤ cell.y + 3 := by
    have bottom_le : cell.bottom ≤ cell.y + cell.height := Nat.min_le_left ..
    rw [hcell, Flow.chipHeight] at bottom_le
    omega
  have from_top : (r.y : ℚ) ≤ row + 1 / 2 := by
    have : (r.y : ℚ) ≤ row := by exact_mod_cast level ▸ top
    linarith
  have to_bottom : (row : ℚ) + 1 / 2 ≤ r.y + 3 := by
    have : (row : ℚ) + 1 ≤ r.y + 3 := by exact_mod_cast level ▸ within
    linarith
  rw [point_y, top_chipRect, bottom_chipRect, hr]
  have height := keeps.height_pos.le
  have steady := keeps.steady
  constructor
  · calc (r.y : ℚ) * g.cellHeight - config.rowTolerance ≤ r.y * g.cellHeight := by linarith
      _ ≤ (row + 1 / 2) * g.cellHeight := mul_le_mul_of_nonneg_right from_top height
  · calc (row + 1 / 2) * g.cellHeight ≤ (r.y + 3) * g.cellHeight :=
          mul_le_mul_of_nonneg_right to_bottom height
      _ ≤ (r.y + 3) * g.cellHeight + config.rowTolerance := by linarith

/-- It is below the reach of those of the rows above. -/
theorem not_reached_of_contains {cell r : Rect} {column row : Nat}
    (inCell : cell.contains column row = true) (hr : r.height = Flow.chipHeight)
    (above : r.y + 4 ≤ cell.y) :
    ¬ (g.point column row).y ≤ (g.chipRect r).bottom + config.rowTolerance := by
  obtain ⟨-, -, top, -⟩ := (Rect.contains_iff ..).mp inCell
  have lower : (r.y : ℚ) + 9 / 2 ≤ row + 1 / 2 := by
    have : (r.y : ℚ) + 4 ≤ row := by exact_mod_cast above.trans top
    linarith
  rw [point_y, bottom_chipRect, hr]
  refine not_le_of_gt ?_
  calc (r.y + 3) * g.cellHeight + config.rowTolerance
      < (r.y + 3) * g.cellHeight + 3 / 2 * g.cellHeight := by linarith [keeps.apart]
    _ = (r.y + 9 / 2) * g.cellHeight := by ring
    _ ≤ (row + 1 / 2) * g.cellHeight := mul_le_mul_of_nonneg_right lower keeps.height_pos.le

/-- The pointer has passed the middle of a cell just when twice the middle
of the cell is less than twice that of the pointer's column. -/
theorem passed_iff {cell : Rect} {column row : Nat} :
    (g.chipRect cell).midX < (g.point column row).x ↔
      2 * cell.x + cell.width < 2 * column + 1 := by
  rw [midX_chipRect, point_x]
  show (_ : ℚ) < _ ↔ _
  rw [mul_lt_mul_iff_left₀ keeps.wide]
  constructor
  · intro less
    have : (2 * cell.x + cell.width : ℚ) < 2 * column + 1 := by linarith
    exact_mod_cast this
  · intro less
    have : (2 * cell.x + cell.width : ℚ) < 2 * column + 1 := by exact_mod_cast less
    linarith

/-! ## §4 The row and the slot -/

include ordered

theorem rowKey_lt_of_lt {r s : Rect} (hr : r ∈ g.cells) (hs : s ∈ g.cells) (above : r.y < s.y) :
    (g.chipRect r).rowKey < (g.chipRect s).rowKey := by
  rw [rowKey_chipRect keeps hr, rowKey_chipRect keeps hs]
  have height := keeps.height_pos
  refine nearest_lt (mul_nonneg (Nat.cast_nonneg _) height.le) ?_
  have rows : (r.y : ℚ) + 4 ≤ s.y := by
    exact_mod_cast Rect.add_four_le_of_lt ordered hr hs above
  calc (r.y : ℚ) * g.cellHeight + 1 ≤ r.y * g.cellHeight + 4 * g.cellHeight := by
        linarith [keeps.tall]
    _ = (r.y + 4) * g.cellHeight := by ring
    _ ≤ s.y * g.cellHeight := mul_le_mul_of_nonneg_right rows height.le

/-- Cells share a row on the drag surface just when they do so on the
screen. -/
theorem rowKey_eq_iff {r s : Rect} (hr : r ∈ g.cells) (hs : s ∈ g.cells) :
    (g.chipRect r).rowKey = (g.chipRect s).rowKey ↔ r.y = s.y := by
  constructor
  · intro same
    rcases Nat.lt_trichotomy r.y s.y with above | level | below
    · exact absurd same (rowKey_lt_of_lt keeps ordered hr hs above).ne
    · exact level
    · exact absurd same (rowKey_lt_of_lt keeps ordered hs hr below).ne'
  · intro level
    rw [rowKey_chipRect keeps hr, rowKey_chipRect keeps hs, level]

theorem rowKey_lt_iff {r s : Rect} (hr : r ∈ g.cells) (hs : s ∈ g.cells) :
    (g.chipRect r).rowKey < (g.chipRect s).rowKey ↔ r.y < s.y := by
  constructor
  · intro lower
    by_contra notAbove
    rcases Nat.lt_or_eq_of_le (Nat.le_of_not_lt notAbove) with below | level
    · exact lt_asymm lower (rowKey_lt_of_lt keeps ordered hs hr below)
    · exact lower.ne ((rowKey_eq_iff keeps ordered hr hs).mpr level.symm)
  · exact rowKey_lt_of_lt keeps ordered hr hs

/-- The slot for a pointer in a cell: before the cell over its left half,
and before the next one over its right half. -/
theorem placeholderFor_point (heights : ∀ cell ∈ g.cells, cell.height = Flow.chipHeight)
    {start : Drag.Point ℚ} {column row : Nat}
    (moved : config.isResting start (g.point column row) = false) {j : Nat}
    (hj : j < g.cells.length) (inCell : g.cells[j].contains column row = true) (dragged : Nat) :
    Drag.placeholderFor config dragged start (g.point column row) g.chipRects =
      some (Drag.slotBefore dragged
        (if 2 * column + 1 ≤ 2 * g.cells[j].x + g.cells[j].width then j else j + 1)) := by
  have hcell : g.cells[j] ∈ g.cells := List.getElem_mem hj
  have before := List.pairwise_iff_getElem.mp ordered
  have rectOrder : g.chipRects.Pairwise fun r s => r.rowKey ≤ s.rowKey := by
    refine List.pairwise_map.mpr (ordered.imp_of_mem fun {r s} hr hs reads => ?_)
    rcases reads with ⟨level, -⟩ | above
    · exact ((rowKey_eq_iff keeps ordered hr hs).mpr level).le
    · have lower : r.y < s.y := Nat.lt_of_lt_of_le (Nat.lt_add_of_pos_right (by decide)) above
      exact (rowKey_lt_of_lt keeps ordered hr hs lower).le
  have hj' : j < g.chipRects.length := by simpa [chipRects] using hj
  have rect_eq : ∀ (i : Nat) (hi : i < g.chipRects.length) (hi' : i < g.cells.length),
      g.chipRects[i] = g.chipRect g.cells[i] :=
    fun i hi hi' => List.getElem_map _
  refine Drag.placeholderFor_eq moved rectOrder hj' ?_ ?_ ?_ ?_ ?_ dragged
  · intro r hr same
    obtain ⟨cell, hmem, rfl⟩ := List.mem_map.mp hr
    rw [rect_eq j hj' hj, rowKey_eq_iff keeps ordered hmem hcell] at same
    exact reached_of_contains keeps inCell (heights _ hcell) (heights _ hmem) same
  · intro r hr lower
    obtain ⟨cell, hmem, rfl⟩ := List.mem_map.mp hr
    rw [rect_eq j hj' hj, rowKey_lt_iff keeps ordered hmem hcell] at lower
    exact not_reached_of_contains keeps inCell (heights _ hmem)
      (Rect.add_four_le_of_lt ordered hmem hcell lower)
  · intro i hi same
    have hi' : i < g.cells.length := by simpa [chipRects] using hi
    rw [rect_eq i hi hi', rect_eq j hj' hj,
      rowKey_eq_iff keeps ordered (List.getElem_mem hi') hcell] at same
    rw [rect_eq i hi hi', passed_iff keeps]
    obtain ⟨left, right, -, -⟩ := (Rect.contains_iff ..).mp inCell
    have right_le : g.cells[j].right ≤ g.cells[j].x + g.cells[j].width := Nat.min_le_left ..
    simp only [Rect.ReadsBefore, Flow.gap, Flow.chipHeight, Flow.rowGap] at before
    rcases Nat.lt_trichotomy i j with ahead | here | behind
    · have := before i j hi' hj ahead
      split <;> omega
    · subst here
      split <;> omega
    · have := before j i hj hi' behind
      split <;> omega
  · exact fun r _ => lt_asymm
  · split
    · exact .inl rfl
    · exact .inr rfl

end Rows

/-- **Over the left half before, over the right half behind**: let chips be
laid out in an area that ends before the last column, on rows that end
before the last row; let their cells keep rows apart on the drag surface,
and let a chip be dragged whose session has these cells as its snapshot.
Move the pointer into the cell of a chip `j`, no nearer to the start than
the threshold. Over the dragged chip itself it finds that chip's slot. Over
another one it finds the slot before it if it is in the left half, its
middle included, and the slot behind it if not; where the dragged chip
comes before it, the slots are one less. The placeholder that there was
does not matter. -/
theorem hover_inserts_at_half {area : Rect} (wide : 1 ≤ area.width)
    (ends : area.x + area.width < Screen.last) (top : area.y ≤ Screen.last)
    (labels : List String) :
    ∃ cells, Flow.cells area labels = .ok cells ∧
      (area.y + 4 * Flow.rowCount cells - 1 ≤ Screen.last →
        ∀ (cellWidth cellHeight : ℚ) (engine : Drag.Engine ℚ) (session : Drag.Session ℚ),
          let g : CellGeometry ℚ := ⟨cells, cellWidth, cellHeight⟩
          g.KeepsRows engine.config → engine.session = some session →
          session.snapshot = g.chipRects →
          ∀ (j : Nat) (hj : j < cells.length) (column row : Nat),
            cells[j].contains column row = true →
            engine.config.distanceThreshold ≤ session.start.exactDistance (g.point column row) →
            ∃ moved, (engine.dragTo (g.point column row)).2.session = some moved ∧
              moved.placeholder =
                if j = session.index then session.index
                else
                  let slot := if session.index < j then j - 1 else j
                  if 2 * column + 1 ≤ 2 * cells[j].x + cells[j].width then slot else slot + 1) := by
  obtain ⟨cells, laid⟩ : ∃ cells, Flow.cells area labels = .ok cells :=
    ⟨_, Flow.cells_eq wide ends top labels⟩
  refine ⟨cells, laid, ?_⟩
  intro low cellWidth cellHeight engine session g keeps hs snapshot j hj column row inCell far
  obtain ⟨ordered, heights⟩ := Flow.readsBefore_cells wide ends top laid low
  have moved : engine.config.isResting session.start (g.point column row) = false :=
    (Drag.Config.isResting_eq_false_iff ..).mpr far
  have found := placeholderFor_point keeps ordered heights moved hj inCell session.index
  refine ⟨_, Drag.Engine.session_dragTo hs _, ?_⟩
  show (Drag.placeholderFor engine.config session.index session.start (g.point column row)
    session.snapshot).getD session.placeholder = _
  rw [snapshot, found, Option.getD_some]
  show Drag.slotBefore session.index
    (if 2 * column + 1 ≤ 2 * cells[j].x + cells[j].width then j else j + 1) = _
  by_cases left : 2 * column + 1 ≤ 2 * cells[j].x + cells[j].width
  · simp only [if_pos left, Drag.slotBefore]
    split_ifs <;> omega
  · simp only [if_neg left, Drag.slotBefore]
    split_ifs <;> omega

/-- Three chips on two rows, and the first one is dragged over the right
half of the third: it goes behind it. -/
theorem hover_over_third_chip :
    let area : Rect := ⟨1, 2, 18, 7⟩
    let cells : List Rect := [⟨1, 2, 9, 3⟩, ⟨11, 2, 7, 3⟩, ⟨1, 6, 9, 3⟩]
    let g : CellGeometry ℚ := ⟨cells, 16, 32⟩
    let session : Drag.Session ℚ := ⟨0, 0, g.point 3 3, g.point 3 3, false, g.chipRects⟩
    let engine : Drag.Engine ℚ := ⟨⟨10, 30⟩, some session, ⟨1⟩⟩
    Flow.cells area ["pizza", "AND", "sushi"] = .ok cells ∧ g.KeepsRows engine.config ∧
      engine.config.distanceThreshold ≤ session.start.exactDistance (g.point 8 7) ∧
      ∃ moved, (engine.dragTo (g.point 8 7)).2.session = some moved ∧ moved.placeholder = 2 := by
  intro area cells g session engine
  have laid : Flow.cells area ["pizza", "AND", "sushi"] = .ok cells := by decide +kernel
  have keeps : g.KeepsRows engine.config :=
    ⟨by decide +kernel, by decide +kernel, by decide +kernel, by decide +kernel,
      by decide +kernel⟩
  have far : engine.config.distanceThreshold ≤ session.start.exactDistance (g.point 8 7) :=
    (Drag.Config.isResting_eq_false_iff ..).mp (by decide +kernel)
  have wide : 1 ≤ area.width := by decide
  obtain ⟨cells', laid', hover⟩ :=
    hover_inserts_at_half wide (by decide) (by decide) ["pizza", "AND", "sushi"]
  cases laid'.symm.trans laid
  exact ⟨laid, keeps, far,
    hover (by decide +kernel) 16 32 engine session keeps rfl rfl 2 (by decide) 8 7 (by decide) far⟩

end CellGeometry

end FilterChips

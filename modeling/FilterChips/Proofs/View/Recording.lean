/-
FilterChips.Proofs.View.Recording — what a frame records of the board.

The recorded cells are those of the first chips: as many as fit, and never
more than there are (`length_cells_le`). To look for the cell under a
position is therefore to look for the chip drawn in it
(`find?_zip_eq_findIdx?`).
-/
import FilterChips.Proofs.Screen.Flow
import FilterChips.View.Frame

namespace FilterChips

/-! ## §1 The number of cells -/

/-- A board records no more cells than there are chips. -/
theorem BoardLayout.length_cells_le {chips : List Chip} {area : Rect} {layout : BoardLayout}
    (h : ofChips chips area = .ok layout) : layout.cells.length ≤ chips.length := by
  simp only [ofChips, Fault.bind_eq_ok_iff] at h
  obtain ⟨cells, hcells, h⟩ := h
  cases h
  calc (cells.takeWhile fun cell => cell.isWithin area.inside).length
      ≤ cells.length := (List.takeWhile_prefix _).length_le
    _ = chips.length := (Flow.length_cells hcells).trans (List.length_map _)

/-- Nor does a frame, for the chips that it shows. -/
theorem View.length_cells_le_of_refresh {view recorded : View} {app : App} {width height : Nat}
    (h : view.refresh app width height = .ok recorded) :
    recorded.board.cells.length ≤ app.displaySequence.length := by
  simp only [refresh, Frame.layout, Fault.bind_eq_ok_iff] at h
  obtain ⟨layout, ⟨rows, -, board, hboard, hits, -, hlayout⟩, h⟩ := h
  cases hlayout
  cases h
  exact BoardLayout.length_cells_le hboard

/-! ## §2 The chip in a cell -/

/-- The chip of the first cell of a kind is the one with its index. -/
theorem find?_zip_eq_findIdx? (chips : List Chip) (cells : List Rect) (p : Rect → Bool) :
    ((chips.zip cells).find? fun entry => p entry.2).map Prod.fst =
      (cells.findIdx? p).bind fun index => chips[index]? := by
  induction chips generalizing cells with
  | nil => cases cells.findIdx? p <;> simp
  | cons chip chips ih =>
    cases cells with
    | nil => rfl
    | cons cell cells =>
      cases hp : p cell with
      | true => simp [List.findIdx?_cons, hp]
      | false =>
        rw [List.zip_cons_cons, List.find?_cons_of_neg (by simp [hp]), ih cells,
          List.findIdx?_cons, hp, if_neg Bool.false_ne_true, Option.bind_map]
        rfl

end FilterChips

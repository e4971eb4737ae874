/-
FilterChips.Proofs.View.Room — every chip is shown whenever there is room,
and the board comes first.

The heights of the board and the palette are measured by a layout at the
origin, and the chips are shown by another one within the borders. Both
are layouts in areas of one width, so the measured rows tell whether the
chips fit (`Rect.IsBoxOf.isWithin_iff_rows_le`). What is left is the
arithmetic of the rows that a frame deals out: the board gets what it
needs as far as there are rows, and the palette gets what it needs of the
rest.
-/
import FilterChips.Proofs.View.Places
import Mathlib.Data.List.Nodup
import Mathlib.Data.List.TakeWhile

namespace FilterChips

/-! ## §1 The chips that fit -/

/-- A box of some width as frames have them: at the left edge, three
columns wide at least, and off the last row. -/
structure Rect.IsBoxOf (area : Rect) (width : Nat) : Prop where
  left : area.x = 0
  wide : 3 ≤ width
  widest : width ≤ Screen.last
  columns : area.width = width
  low : area.y + area.height + 1 < Screen.last

theorem rowsWithin_eq_ok_iff {chips : List Chip} {width rows : Nat} :
    rowsWithin chips width = .ok rows ↔
      ∃ cells, Flow.cells ⟨0, 0, width - 2, 0⟩ (chips.map Chip.label) = .ok cells ∧
        rows = Flow.height ⟨0, 0, width - 2, 0⟩ cells := by
  simp only [rowsWithin, Fault.bind_eq_ok_iff, Except.ok.injEq, eq_comm (b := rows)]

/-- No chip is on offer twice. -/
theorem IdentifierPool.nodup_offered (pool : IdentifierPool) (query : String) :
    (pool.offered query).Nodup := by
  have identifiers : (pool.matching query).Nodup :=
    (pool.distinct.of_map Chip.label).filter _
  refine List.nodup_append.mpr ⟨by decide, identifiers, ?_⟩
  rintro _ hcondition chip hchip rfl
  obtain ⟨condition, -, rfl⟩ := List.mem_map.mp hcondition
  have identifier := pool.identifiers _ (List.mem_filter.mp hchip).1
  simp at identifier

/-- Of chips that are distinct all are shown just when each entry is. -/
theorem Palette.shows_all_iff {entries : List Hit} (distinct : (entries.map Hit.chip).Nodup)
    (p : Hit → Bool) :
    (∀ chip ∈ entries.map Hit.chip, ∃ hit ∈ entries.filter p, hit.chip = chip) ↔
      ∀ entry ∈ entries, p entry = true := by
  rw [List.forall_mem_map]
  constructor
  · intro shown entry hentry
    obtain ⟨hit, hhit, same⟩ := shown entry hentry
    obtain ⟨hmem, within⟩ := List.mem_filter.mp hhit
    rwa [← List.inj_on_of_nodup_map distinct hmem hentry same]
  · exact fun within entry hentry =>
      ⟨entry, List.mem_filter.mpr ⟨hentry, within entry hentry⟩, rfl⟩

namespace Rect.IsBoxOf

variable {area : Rect} {width : Nat} (box : area.IsBoxOf width)
include box

theorem left_inside : area.inside.x = 1 := by
  have := box.wide
  have := box.left
  have := box.columns
  simp only [inside, right, Screen.add, Screen.last]
  omega

theorem width_inside : area.inside.width = width - 2 := by
  rw [inside, box.columns]

theorem wide_inside : 1 ≤ area.inside.width := by
  have := box.wide
  rw [box.width_inside]
  omega

theorem ends_inside : area.inside.x + area.inside.width < Screen.last := by
  have := box.wide
  have := box.widest
  rw [box.left_inside, box.width_inside]
  omega

theorem low_inside : area.inside.y + area.inside.height + 1 < Screen.last := by
  have := box.low
  simp only [inside, bottom, Screen.add]
  omega

/-- Within the border chips can be laid out. -/
theorem exists_cells (labels : List String) :
    ∃ cells, Flow.cells area.inside labels = .ok cells := by
  have top : area.inside.y ≤ Screen.last := by
    have := box.low_inside
    omega
  exact ⟨_, Flow.cells_eq box.wide_inside box.ends_inside top labels⟩

theorem exists_ofChips (chips : List Chip) :
    ∃ layout, BoardLayout.ofChips chips area = .ok layout := by
  obtain ⟨cells, hcells⟩ := box.exists_cells (chips.map Chip.label)
  simp only [BoardLayout.ofChips, Fault.bind_eq_ok_iff]
  exact ⟨_, cells, hcells, rfl⟩

theorem exists_hitsIn (pool : IdentifierPool) (query : String) :
    ∃ hits, Palette.hitsIn pool query area = .ok hits := by
  obtain ⟨cells, hcells⟩ := box.exists_cells ((pool.offered query).map Chip.label)
  exact ⟨_, Palette.hitsIn_eq_ok_iff.mpr ⟨cells, hcells, rfl⟩⟩

/-- They are all within the border just when it has the measured rows. -/
theorem isWithin_iff_rows_le {chips : List Chip} {cells : List Rect} {rows : Nat}
    (laid : Flow.cells area.inside (chips.map Chip.label) = .ok cells)
    (measured : rowsWithin chips width = .ok rows) :
    (∀ cell ∈ cells, cell.isWithin area.inside = true) ↔ rows ≤ area.inside.height := by
  obtain ⟨atOrigin, hcells, rfl⟩ := rowsWithin_eq_ok_iff.mp measured
  rw [← box.width_inside] at hcells ⊢
  exact Flow.isWithin_iff_height_le box.wide_inside box.ends_inside box.low_inside laid hcells

/-- A board shows all its chips just when its border has the rows for them. -/
theorem board_shows_all_iff {chips : List Chip} {layout : BoardLayout} {rows : Nat}
    (laid : BoardLayout.ofChips chips area = .ok layout)
    (measured : rowsWithin chips width = .ok rows) :
    layout.cells.length = chips.length ↔ rows ≤ area.inside.height := by
  simp only [BoardLayout.ofChips, Fault.bind_eq_ok_iff] at laid
  obtain ⟨cells, hcells, laid⟩ := laid
  cases laid
  have length : chips.length = cells.length :=
    ((Flow.length_cells hcells).trans (List.length_map _)).symm
  rw [length, ← box.isWithin_iff_rows_le hcells measured]
  exact (List.takeWhile_sublist _).length_eq.trans List.takeWhile_eq_self_iff

/-- A palette shows all the chips on offer just when its border has the
rows for them. -/
theorem palette_shows_all_iff {pool : IdentifierPool} {query : String} {hits : List Hit}
    {rows : Nat} (laid : Palette.hitsIn pool query area = .ok hits)
    (measured : rowsWithin (pool.offered query) width = .ok rows) :
    (∀ chip ∈ pool.offered query, ∃ hit ∈ hits, hit.chip = chip) ↔ rows ≤ area.inside.height := by
  obtain ⟨cells, hcells, rfl⟩ := Palette.hitsIn_eq_ok_iff.mp laid
  have length : cells.length = (pool.offered query).length :=
    (Flow.length_cells hcells).trans (List.length_map _)
  have distinct : ((Palette.entries (pool.offered query) cells).map Hit.chip).Nodup := by
    rw [Palette.map_chip_entries length]
    exact pool.nodup_offered query
  have shown := Palette.shows_all_iff distinct fun hit => hit.cell.isWithin area.inside
  rw [Palette.map_chip_entries length] at shown
  have within := List.forall_mem_map (l := Palette.entries (pool.offered query) cells)
    (f := Hit.cell) (P := fun cell => cell.isWithin area.inside = true)
  rw [Palette.map_cell_entries length] at within
  rw [← box.isWithin_iff_rows_le hcells measured, within]
  exact shown

end Rect.IsBoxOf

/-! ## §2 The rows that a frame deals out -/

theorem rowsWithin_nil (width : Nat) : rowsWithin [] width = .ok 0 :=
  rfl

theorem boardHeight_eq_ok_iff {chips : List Chip} {width needed : Nat} :
    boardHeight chips width = .ok needed ↔
      ∃ rows, rowsWithin chips width = .ok rows ∧
        max rows Flow.chipHeight + borderRows ≤ Screen.last ∧
        needed = max rows Flow.chipHeight + borderRows := by
  simp only [boardHeight, Fault.bind_eq_ok_iff, Flow.sum_eq_ok_iff]

theorem paletteHeight_eq_ok_iff {pool : IdentifierPool} {query : String} {width needed : Nat} :
    paletteHeight pool query width = .ok needed ↔
      ∃ rows, rowsWithin (pool.offered query) width = .ok rows ∧
        rows + borderRows ≤ Screen.last ∧ needed = rows + borderRows := by
  simp only [paletteHeight, Fault.bind_eq_ok_iff, Flow.sum_eq_ok_iff]

/-- Chips need the rows of one chip at least. -/
theorem chipHeight_le_rowsWithin {chips : List Chip} (some : chips ≠ []) {width rows : Nat}
    (wide : 3 ≤ width) (widest : width ≤ Screen.last)
    (measured : rowsWithin chips width = .ok rows) : Flow.chipHeight ≤ rows := by
  obtain ⟨cells, hcells, rfl⟩ := rowsWithin_eq_ok_iff.mp measured
  exact Flow.chipHeight_le_height (by omega) (by omega) (by simpa using some) hcells

namespace Frame

variable {app : App} {query : String} {width height : Nat}

/-- The boards and palettes of frames are boxes of the frame's width. -/
theorem isBoxOf_areas (wide : 3 ≤ width) (widest : width ≤ Screen.last)
    (tallest : height ≤ Screen.last) {rows : Nat} (h : rows ≤ availableRows height) :
    (areas width height rows).board.IsBoxOf width ∧
      (areas width height rows).palette.IsBoxOf width := by
  have top : (if fixedRows ≤ height then 1 else 0) ≤ 1 := by split <;> omega
  refine ⟨⟨rfl, wide, widest, rfl, ?_⟩, ⟨rfl, wide, widest, rfl, ?_⟩⟩ <;>
    simp only [areas, availableRows, fixedRows] at h top ⊢ <;> omega

/-- The rows that the palette gets are those that it needs of the rest. -/
theorem paletteRows_eq (height : Nat) {board palette : Nat}
    (hboard : boardHeight app.displaySequence width = .ok board)
    (hpalette : paletteHeight app.chips.pool query width = .ok palette) :
    paletteRows app query width height =
      .ok (min palette (availableRows height - min board (availableRows height))) := by
  simp only [paletteRows, Fault.bind_eq_ok_iff]
  exact ⟨board, hboard, palette, hpalette, rfl⟩

/-- A frame can be laid out when its palette's rows can be told. -/
theorem exists_layout (wide : 3 ≤ width) (widest : width ≤ Screen.last)
    (tallest : height ≤ Screen.last) {rows : Nat}
    (dealt : paletteRows app query width height = .ok rows) :
    ∃ layout, Frame.layout app query width height = .ok layout := by
  obtain ⟨boardBox, paletteBox⟩ := isBoxOf_areas wide widest tallest (paletteRows_le dealt)
  obtain ⟨board, hboard⟩ := boardBox.exists_ofChips app.displaySequence
  obtain ⟨hits, hhits⟩ := paletteBox.exists_hitsIn app.chips.pool query
  exact ⟨⟨areas width height rows, board, hits⟩,
    layout_eq_ok_iff.mpr ⟨rows, dealt, rfl, hboard, hhits⟩⟩

end Frame

namespace View

/-- **Every chip is shown whenever there is room, the board's first**: if
the heights of the board and the palette can be told, then a frame can be
drawn; it records a cell for every chip of the sequence just when there
is none or the board's rows are there, and a hit for every chip on offer
just when the rows of both are there. Where the board leaves no row, no
position is on the palette. -/
theorem all_shown_iff_room {app : App} {view : View} {width height board palette : Nat}
    (wide : 3 ≤ width) (widest : width ≤ Screen.last) (tall : 4 ≤ height)
    (tallest : height ≤ Screen.last)
    (hboard : boardHeight app.displaySequence width = .ok board)
    (hpalette : paletteHeight app.chips.pool view.palette.query width = .ok palette) :
    ∃ recorded screen, view.drawFrame app width height = .ok (recorded, screen) ∧
      (recorded.board.cells.length = app.displaySequence.length ↔
        app.displaySequence = [] ∨ board ≤ height - 4) ∧
      ((∀ chip ∈ app.chips.pool.offered view.palette.query,
          ∃ hit ∈ recorded.palette.hits, hit.chip = chip) ↔ board + palette ≤ height - 4) ∧
      (height - 4 ≤ board → ∀ column row, ¬ recorded.OnPalette column row) := by
  have dealt := Frame.paletteRows_eq height hboard hpalette
  obtain ⟨layout, laid⟩ := Frame.exists_layout wide widest tallest dealt
  refine ⟨_, _, drawFrame_eq_ok_iff.mpr ⟨layout, laid, rfl, rfl⟩, ?_⟩
  obtain ⟨rows, dealt', areas, boardLaid, hitsLaid⟩ := Frame.layout_eq_ok_iff.mp laid
  obtain ⟨boardBox, paletteBox⟩ :=
    Frame.isBoxOf_areas wide widest tallest (Frame.paletteRows_le dealt')
  have rows_eq := Except.ok.inj (dealt'.symm.trans dealt)
  rw [areas] at boardLaid hitsLaid
  obtain ⟨boardRows, boardMeasured, -, rfl⟩ := boardHeight_eq_ok_iff.mp hboard
  obtain ⟨offeredRows, offeredMeasured, -, rfl⟩ := paletteHeight_eq_ok_iff.mp hpalette
  have boardInside : (Frame.areas width height rows).board.inside.height = height - 4 - rows - 2 :=
    rfl
  have paletteInside : (Frame.areas width height rows).palette.inside.height = rows - 2 := rfl
  simp only [Frame.availableRows, Frame.fixedRows, borderRows, Flow.chipHeight] at rows_eq ⊢
  refine ⟨?_, ?_, ?_⟩
  · refine (boardBox.board_shows_all_iff boardLaid boardMeasured).trans ?_
    rw [boardInside]
    by_cases none : app.displaySequence = []
    · rw [none, rowsWithin_nil] at boardMeasured
      cases boardMeasured
      simp [none]
    · have some : 3 ≤ boardRows := chipHeight_le_rowsWithin none wide widest boardMeasured
      rw [or_iff_right none]
      omega
  · refine (paletteBox.palette_shows_all_iff hitsLaid offeredMeasured).trans ?_
    have offers : app.chips.pool.offered view.palette.query ≠ [] := by
      simp [IdentifierPool.offered, Condition.all]
    have some : 3 ≤ offeredRows := chipHeight_le_rowsWithin offers wide widest offeredMeasured
    rw [paletteInside]
    omega
  · rintro full column row ⟨hit, hhit, hc⟩
    have within := ((Palette.hits_hitsIn hitsLaid).2 hit hhit).1
    have inside := Rect.contains_of_isWithin within hc
    rw [Rect.contains_iff, Rect.bottom, Screen.add, paletteInside] at inside
    omega

/-- A board and a palette of one row of chips each: fourteen rows show
them all, and with one row less the palette does not show all its chips. -/
theorem all_shown_with_fourteen_rows :
    let app := App.start (.ofInitial (.ofLabels ["sushi"]) ["pizza", "AND"]) .standard
    let view := View.start 16 32
    boardHeight app.displaySequence 40 = .ok 5 ∧
      paletteHeight app.chips.pool view.palette.query 40 = .ok 5 ∧
      (∃ recorded screen, view.drawFrame app 40 14 = .ok (recorded, screen) ∧
        recorded.board.cells.length = 2 ∧
        ∀ chip ∈ app.chips.pool.offered view.palette.query,
          ∃ hit ∈ recorded.palette.hits, hit.chip = chip) ∧
      ∃ recorded screen, view.drawFrame app 40 13 = .ok (recorded, screen) ∧
        recorded.board.cells.length = 2 ∧
        ¬ ∀ chip ∈ app.chips.pool.offered view.palette.query,
          ∃ hit ∈ recorded.palette.hits, hit.chip = chip := by
  intro app view
  have board : boardHeight app.displaySequence 40 = .ok 5 := by decide +kernel
  have palette : paletteHeight app.chips.pool view.palette.query 40 = .ok 5 := by decide +kernel
  obtain ⟨recorded, screen, drawn, cells, hits, -⟩ :=
    all_shown_iff_room (by decide) (by decide) (by decide : 4 ≤ 14) (by decide) board palette
  obtain ⟨lower, screen', drawn', cells', hits', -⟩ :=
    all_shown_iff_room (by decide) (by decide) (by decide : 4 ≤ 13) (by decide) board palette
  exact ⟨board, palette,
    ⟨recorded, screen, drawn, cells.mpr (.inr (by decide)), hits.mpr (by decide)⟩,
    ⟨lower, screen', drawn', cells'.mpr (.inr (by decide)), mt hits'.mp (by decide)⟩⟩

end View

end FilterChips

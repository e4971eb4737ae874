/-
FilterChips.Proofs.View.Places — what lies where on a frame.

A frame records the cells of the board, the hits of the palette and the
area of the trash. Two facts put each position into one of them at most.

* The areas are stacked: the board ends above the palette and the palette
  above the trash (`stacked_areas`). Recorded cells are within the border
  of their area, so none reaches into another one.
* Within the board and within the palette the cells come one after
  another, as the flow layout put them.
-/
import FilterChips.Proofs.View.Recording

namespace FilterChips

/-! ## §1 The hit at a position -/

theorem Hit.eq_of_contains {hits : List Hit} (h : (hits.map Hit.cell).Pairwise Rect.Precedes)
    {i j : Nat} (hi : i < hits.length) (hj : j < hits.length) {column row : Nat}
    (ci : hits[i].cell.contains column row = true) (cj : hits[j].cell.contains column row = true) :
    i = j := by
  exact Rect.eq_of_contains h (by simpa) (by simpa) (by simpa using ci) (by simpa using cj)

theorem Palette.chipAt?_of_contains {palette : Palette}
    (h : (palette.hits.map Hit.cell).Pairwise Rect.Precedes) {k : Nat}
    (hk : k < palette.hits.length) {column row : Nat}
    (ck : palette.hits[k].cell.contains column row = true) :
    palette.chipAt? column row = some palette.hits[k].chip := by
  unfold chipAt?
  cases found : palette.hits.find? fun hit => hit.cell.contains column row with
  | none =>
    have missed := List.find?_eq_none.mp found palette.hits[k] (List.getElem_mem hk)
    exact absurd ck missed
  | some hit =>
    obtain ⟨chit, i, hi, rfl, -⟩ := List.find?_eq_some_iff_getElem.mp found
    have same : i = k := Hit.eq_of_contains h hi hk chit ck
    subst same
    rfl

/-! ## §2 The board and the palette -/

/-- The recorded cells of a board come one after another within its
border. -/
theorem BoardLayout.cells_ofChips {chips : List Chip} {area : Rect} {layout : BoardLayout}
    (h : ofChips chips area = .ok layout) :
    layout.cells.Pairwise Rect.Precedes ∧
      ∀ cell ∈ layout.cells, cell.isWithin area.inside = true := by
  simp only [ofChips, Fault.bind_eq_ok_iff] at h
  obtain ⟨cells, hcells, h⟩ := h
  cases h
  refine ⟨(Flow.precedes_cells hcells).sublist (List.takeWhile_sublist _), fun cell hcell => ?_⟩
  exact List.all_eq_true.mp List.all_takeWhile cell hcell

/-- The chips on offer, each with its cell, shown or not. -/
def Palette.entries (chips : List Chip) (cells : List Rect) : List Hit :=
  chips.zipWith (fun chip cell => ⟨cell, chip⟩) cells

theorem Palette.map_cell_entries {chips : List Chip} {cells : List Rect}
    (h : cells.length = chips.length) : (entries chips cells).map Hit.cell = cells :=
  List.ext_getElem (by simp [entries, h]) (by simp [entries])

theorem Palette.map_chip_entries {chips : List Chip} {cells : List Rect}
    (h : cells.length = chips.length) : (entries chips cells).map Hit.chip = chips :=
  List.ext_getElem (by simp [entries, h]) (by simp [entries])

/-- The hits of a palette are those entries whose cells are within its
border. -/
theorem Palette.hitsIn_eq_ok_iff {pool : IdentifierPool} {query : String} {area : Rect}
    {hits : List Hit} :
    hitsIn pool query area = .ok hits ↔
      ∃ cells, Flow.cells area.inside ((pool.offered query).map Chip.label) = .ok cells ∧
        hits = (entries (pool.offered query) cells).filter fun hit =>
          hit.cell.isWithin area.inside := by
  simp only [hitsIn, Fault.bind_eq_ok_iff, Except.ok.injEq, eq_comm (b := hits)]
  rfl

/-- The hits come one after another within the border, too, and each is
for a chip on offer. -/
theorem Palette.hits_hitsIn {pool : IdentifierPool} {query : String} {area : Rect}
    {hits : List Hit} (h : hitsIn pool query area = .ok hits) :
    (hits.map Hit.cell).Pairwise Rect.Precedes ∧
      ∀ hit ∈ hits, hit.cell.isWithin area.inside = true ∧ hit.chip ∈ pool.offered query := by
  obtain ⟨cells, hcells, rfl⟩ := hitsIn_eq_ok_iff.mp h
  have length : cells.length = (pool.offered query).length :=
    (Flow.length_cells hcells).trans (List.length_map _)
  constructor
  · have shown := (List.filter_sublist (p := fun hit : Hit => hit.cell.isWithin area.inside)
      (l := entries (pool.offered query) cells)).map Hit.cell
    rw [map_cell_entries length] at shown
    exact (Flow.precedes_cells hcells).sublist shown
  · intro hit hhit
    obtain ⟨entry, within⟩ := List.mem_filter.mp hhit
    refine ⟨within, ?_⟩
    rw [← map_chip_entries length]
    exact List.mem_map_of_mem entry

/-! ## §3 The frame -/

namespace Frame

theorem paletteRows_le {app : App} {query : String} {width height rows : Nat}
    (h : paletteRows app query width height = .ok rows) : rows ≤ availableRows height := by
  simp only [paletteRows, Fault.bind_eq_ok_iff, Except.ok.injEq] at h
  obtain ⟨board, -, palette, -, rfl⟩ := h
  omega

/-- The board ends above the palette, and both end above the trash. -/
theorem stacked_areas {height rows : Nat} (h : rows ≤ availableRows height) (width : Nat) :
    (areas width height rows).board.Precedes (areas width height rows).palette ∧
      (areas width height rows).board.Precedes (areas width height rows).trash ∧
      (areas width height rows).palette.Precedes (areas width height rows).trash := by
  obtain ⟨top, htop, high⟩ : ∃ top : Nat, (if fixedRows ≤ height then 1 else 0) = top ∧
      (fixedRows ≤ height ∧ top = 1 ∨ height < fixedRows ∧ top = 0) := by
    by_cases tall : fixedRows ≤ height
    · exact ⟨1, if_pos tall, .inl ⟨tall, rfl⟩⟩
    · exact ⟨0, if_neg tall, .inr ⟨Nat.lt_of_not_le tall, rfl⟩⟩
  simp only [areas, htop, Rect.Precedes, Rect.bottom, Screen.add]
  simp only [availableRows, fixedRows, bottomRows] at h high ⊢
  generalize Screen.last = last
  refine ⟨.inr ?_, .inr ?_, .inr ?_⟩ <;> omega

/-- What a frame records, in one place: its areas leave the palette no
more rows than there are, and the board and the hits are laid out in
theirs. -/
theorem layout_eq_ok_iff {app : App} {query : String} {width height : Nat} {layout : Layout} :
    Frame.layout app query width height = .ok layout ↔
      ∃ rows, paletteRows app query width height = .ok rows ∧
        layout.areas = areas width height rows ∧
        BoardLayout.ofChips app.displaySequence layout.areas.board = .ok layout.board ∧
        Palette.hitsIn app.chips.pool query layout.areas.palette = .ok layout.hits := by
  obtain ⟨places, board, hits⟩ := layout
  simp only [Frame.layout, Fault.bind_eq_ok_iff, Except.ok.injEq, Layout.mk.injEq]
  constructor
  · rintro ⟨rows, hrows, board', hboard, hits', hhits, rfl, rfl, rfl⟩
    exact ⟨rows, hrows, rfl, hboard, hhits⟩
  · rintro ⟨rows, hrows, rfl, hboard, hhits⟩
    exact ⟨rows, hrows, board, hboard, hits, hhits, rfl, rfl, rfl⟩

/-- A frame of 40 columns and 14 rows for `pizza` and `AND` on the board,
with `sushi` and the conditions on offer. -/
def Layout.ofTwoChips : Layout where
  areas := Frame.areas 40 14 5
  board := ⟨[⟨1, 2, 9, 3⟩, ⟨11, 2, 7, 3⟩], ⟨1, 2, 38, 3⟩⟩
  hits :=
    [⟨⟨1, 7, 7, 3⟩, .condition .and⟩, ⟨⟨9, 7, 6, 3⟩, .condition .or⟩,
      ⟨⟨16, 7, 5, 3⟩, .condition .opening⟩, ⟨⟨22, 7, 5, 3⟩, .condition .closing⟩,
      ⟨⟨28, 7, 9, 3⟩, .identifier "sushi"⟩]

end Frame

namespace View

/-- A position on a cell of the board. -/
def OnBoard (view : View) (column row : Nat) : Prop :=
  ∃ cell ∈ view.board.cells, cell.contains column row = true

/-- A position on a hit of the palette. -/
def OnPalette (view : View) (column row : Nat) : Prop :=
  ∃ hit ∈ view.palette.hits, hit.cell.contains column row = true

/-- A position on the trash. -/
def OnTrash (view : View) (column row : Nat) : Prop :=
  view.trash.contains column row = true

instance (view : View) (column row : Nat) : Decidable (view.OnBoard column row) :=
  inferInstanceAs (Decidable (∃ cell ∈ view.board.cells, _))

instance (view : View) (column row : Nat) : Decidable (view.OnPalette column row) :=
  inferInstanceAs (Decidable (∃ hit ∈ view.palette.hits, _))

theorem drawFrame_eq_ok_iff {view recorded : View} {app : App} {width height : Nat}
    {screen : Buffer} :
    view.drawFrame app width height = .ok (recorded, screen) ↔
      ∃ layout, Frame.layout app view.palette.query width height = .ok layout ∧
        recorded = layout.record view ∧
        screen = Frame.paint app recorded layout (.blank width height) := by
  simp only [drawFrame, Fault.bind_eq_ok_iff, Except.ok.injEq, Prod.mk.injEq]
  constructor
  · rintro ⟨layout, hlayout, rfl, rfl⟩
    exact ⟨layout, hlayout, rfl, rfl⟩
  · rintro ⟨layout, hlayout, rfl, rfl⟩
    exact ⟨layout, hlayout, rfl, rfl⟩

/-- No position of a frame lies in two of the board's cells, the palette's
hits and the trash. -/
theorem places_disjoint {view recorded : View} {app : App} {width height : Nat} {screen : Buffer}
    (h : view.drawFrame app width height = .ok (recorded, screen)) (column row : Nat) :
    ¬ (recorded.OnBoard column row ∧ recorded.OnPalette column row) ∧
      ¬ (recorded.OnBoard column row ∧ recorded.OnTrash column row) ∧
      ¬ (recorded.OnPalette column row ∧ recorded.OnTrash column row) := by
  obtain ⟨layout, hlayout, rfl, -⟩ := drawFrame_eq_ok_iff.mp h
  obtain ⟨rows, hrows, hareas, hboard, hhits⟩ := Frame.layout_eq_ok_iff.mp hlayout
  have stacked := Frame.stacked_areas (Frame.paletteRows_le hrows) width
  rw [← hareas] at stacked
  obtain ⟨boardPalette, boardTrash, paletteTrash⟩ := stacked
  have onBoard : (layout.record view).OnBoard column row →
      layout.areas.board.contains column row = true := by
    rintro ⟨cell, hcell, hc⟩
    exact Rect.contains_of_inside
      (Rect.contains_of_isWithin ((BoardLayout.cells_ofChips hboard).2 cell hcell) hc)
  have onPalette : (layout.record view).OnPalette column row →
      layout.areas.palette.contains column row = true := by
    rintro ⟨hit, hhit, hc⟩
    exact Rect.contains_of_inside
      (Rect.contains_of_isWithin ((Palette.hits_hitsIn hhits).2 hit hhit).1 hc)
  exact ⟨fun ⟨b, p⟩ => boardPalette.not_contains (onBoard b) (onPalette p),
    fun ⟨b, t⟩ => boardTrash.not_contains (onBoard b) t,
    fun ⟨p, t⟩ => paletteTrash.not_contains (onPalette p) t⟩

end View

end FilterChips

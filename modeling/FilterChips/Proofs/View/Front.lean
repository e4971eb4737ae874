/-
FilterChips.Proofs.View.Front — the chips that a board or a palette shows
are the first ones.

The board stops at the first chip that does not fit, and the palette passes
over each chip that does not fit. Both show the same, because a layout goes
downwards: a cell is within an area just when its row ends there
(`fits_iff`), and no row ends above that of an earlier chip. So what fits
is at the front of the list, and there stopping and passing over are one
(`takeWhile_eq_filter`).

How many rows are enough is what the height of the board tells. It is
measured elsewhere, at the origin, but it depends on the number of rows
alone, and that is the same in all areas of one width.
-/
import FilterChips.Proofs.Screen.Arrangement
import FilterChips.Proofs.View.Growth

namespace FilterChips

/-! ## §1 What holds at the front of a list -/

section Front

variable {β : Type} {p : β → Bool} {l : List β}
  (front : l.Pairwise fun a b => p b = true → p a = true)
include front

/-- Where nothing holds behind a failure, to stop at the first failure is
to leave out all of them. -/
theorem takeWhile_eq_filter : l.takeWhile p = l.filter p := by
  induction l with
  | nil => rfl
  | cons a l ih =>
    obtain ⟨first, rest⟩ := List.pairwise_cons.mp front
    by_cases ha : p a = true
    · rw [List.takeWhile_cons_of_pos ha, List.filter_cons_of_pos ha, ih rest]
    · have none : l.filter p = [] :=
        List.filter_eq_nil_iff.mpr fun b hb holds => ha (first b hb holds)
      rw [List.takeWhile_cons_of_neg ha, List.filter_cons_of_neg ha, none]

theorem filter_eq_take_countP : l.filter p = l.take (l.countP p) := by
  have taken : l.takeWhile p = l.take (l.takeWhile p).length :=
    List.prefix_iff_eq_take.mp <| List.takeWhile_prefix p
  rwa [takeWhile_eq_filter front, ← List.countP_eq_length_filter] at taken

theorem not_of_mem_drop_countP : ∀ b ∈ l.drop (l.countP p), ¬ p b = true := by
  have total : l.countP p = (l.take (l.countP p)).countP p + (l.drop (l.countP p)).countP p := by
    rw [← List.countP_append, List.take_append_drop]
  have taken : (l.take (l.countP p)).countP p = l.countP p := by
    rw [← filter_eq_take_countP front, List.countP_filter]
    simp
  exact List.countP_eq_zero.mp (by omega)

end Front

/-! ## §2 Cells that fit -/

/-- A rectangle lies in another one, by plain numbers. -/
def Rect.LiesIn (r s : Rect) : Prop :=
  s.x ≤ r.x ∧ r.x + r.width ≤ s.x + s.width ∧ s.y ≤ r.y ∧ r.y + r.height ≤ s.y + s.height

/-- A rectangle ends on the screen. -/
structure Rect.OnScreen (r : Rect) : Prop where
  right : r.x + r.width ≤ Screen.last
  bottom : r.y + r.height ≤ Screen.last

namespace Flow

/-- The number of the row of a cell, which is that of the rows above it. -/
def rowOf (cells : List Rect) (cell : Rect) : Nat :=
  rowCount (cells.filter fun above => above.y < cell.y)

/-- The number of chips whose rows end within the height of an area. -/
def fittingCount (area : Rect) (cells : List Rect) : Nat :=
  cells.countP fun cell => 4 * rowOf cells cell + 3 ≤ area.height

theorem Slot.isWithin_whole_iff {area : Rect} {slot : Slot} (onScreen : area.OnScreen)
    (fits : slot.column + slot.width ≤ area.width) (above : area.y + slot.depth ≤ Screen.last) :
    (slot.whole area).isWithin area = true ↔ slot.depth ≤ area.height := by
  obtain ⟨right, bottom⟩ := onScreen
  rw [Rect.isWithin_iff]
  simp only [whole, Rect.right, Rect.bottom, depth, chipHeight, rowGap, Screen.add] at *
  generalize Screen.last = last at *
  omega

theorem Slot.liesIn_whole_iff {area : Rect} {slot : Slot}
    (fits : slot.column + slot.width ≤ area.width) :
    (slot.whole area).LiesIn area ↔ slot.depth ≤ area.height := by
  simp only [Rect.LiesIn, whole, depth, chipHeight, rowGap]
  omega

section Layout

variable {area : Rect} (wide : 1 ≤ area.width) (ends : area.x + area.width < Screen.last)
  (onScreen : area.OnScreen) {labels : List String} {cells : List Rect}
  (laid : Flow.cells area labels = .ok cells)
  (low : area.y + 4 * rowCount cells - 1 ≤ Screen.last)
include wide ends onScreen laid low

/-- Whether a cell fits is told by its row alone. -/
theorem fits_iff : ∀ cell ∈ cells,
    (cell.isWithin area = true ↔ 4 * rowOf cells cell + 3 ≤ area.height) ∧
      (cell.LiesIn area ↔ 4 * rowOf cells cell + 3 ≤ area.height) := by
  have top : area.y ≤ Screen.last := Nat.le_of_add_right_le onScreen.bottom
  have depths : ∀ slot ∈ slots area.width (labels.map (widthIn area)),
      area.y + slot.depth ≤ Screen.last := by
    cases (cells_eq wide ends top labels).symm.trans laid
    exact depth_le low
  rw [cells_eq_whole wide ends top laid low, List.forall_mem_map]
  intro slot hslot
  have fits := Slot.column_add_width_le (widthIn_le wide labels) slot hslot
  have row : 4 * rowOf _ (slot.whole area) + 3 = slot.depth :=
    congrArg (4 * · + 3) (rowCount_above hslot area)
  rw [row]
  exact ⟨Slot.isWithin_whole_iff onScreen fits (depths slot hslot), Slot.liesIn_whole_iff fits⟩

/-- Rows go downwards, so a cell fits when a later one does. -/
theorem pairwise_isWithin :
    cells.Pairwise fun r s => s.isWithin area = true → r.isWithin area = true := by
  have top : area.y ≤ Screen.last := Nat.le_of_add_right_le onScreen.bottom
  obtain ⟨ordered, height⟩ := readsBefore_cells wide ends top laid low
  refine ordered.imp_of_mem fun {r s} hr hs before within => ?_
  have arranged := arranged_cells wide ends top laid low
  have fits := fits_iff wide ends onScreen laid low
  have lies := (fits s hs).2.mpr ((fits s hs).1.mp within)
  refine (fits r hr).1.mpr ((fits r hr).2.mp ?_)
  have same := height s hs
  obtain ⟨left, right⟩ := arranged.within r hr
  have above : area.y ≤ r.y := arranged.top r hr ▸ Nat.le_add_right ..
  refine ⟨left, right, above, ?_⟩
  rw [height r hr]
  simp only [Rect.LiesIn, Rect.ReadsBefore, chipHeight, rowGap] at lies before same ⊢
  omega

/-- As many cells are within the area as rows say. -/
theorem countP_isWithin : cells.countP (Rect.isWithin · area) = fittingCount area cells :=
  List.countP_congr fun cell hcell => by
    simpa using (fits_iff wide ends onScreen laid low cell hcell).1

/-- The first of these cells lie within the area, and no other does. -/
theorem liesIn_take_and_not_drop :
    (∀ cell ∈ cells.take (fittingCount area cells), cell.LiesIn area) ∧
      ∀ cell ∈ cells.drop (fittingCount area cells), ¬ cell.LiesIn area := by
  have fits := fits_iff wide ends onScreen laid low
  have front := pairwise_isWithin wide ends onScreen laid low
  rw [← countP_isWithin wide ends onScreen laid low]
  constructor
  · intro cell hcell
    rw [← filter_eq_take_countP front] at hcell
    obtain ⟨mem, within⟩ := List.mem_filter.mp hcell
    exact (fits cell mem).2.mpr ((fits cell mem).1.mp within)
  · intro cell hcell lies
    have mem := List.mem_of_mem_drop hcell
    have within := (fits cell mem).1.mpr ((fits cell mem).2.mp lies)
    exact not_of_mem_drop_countP front cell hcell within

/-- They all fit just when the area has four screen rows for each row of
chips, the last of which may be missing. -/
theorem fittingCount_eq_length_iff :
    fittingCount area cells = cells.length ↔ 4 * rowCount cells ≤ area.height + 1 := by
  have top : area.y ≤ Screen.last := Nat.le_of_add_right_le onScreen.bottom
  have widths : labels.map (widthIn area) = labels.map (clip area.width) :=
    List.map_congr_left fun label _ => widthIn_of_wide wide label
  have rows := rowCount_eq_rowsTaken wide ends top laid low
  have enough : 4 * rowsTaken area.width (labels.map (clip area.width)) ≤ area.height + 1 ↔
      rowsTaken area.width (labels.map (clip area.width)) ≤ (area.height + 1) / 4 := by
    omega
  rw [rows, enough, rowsTaken_le_iff, ← widths, fittingCount, List.countP_eq_length]
  rw [cells_eq_whole wide ends top laid low, List.forall_mem_map]
  refine forall₂_congr fun slot hslot => ?_
  have row : rowOf _ (slot.whole area) = slot.row := rowCount_above hslot area
  rw [row, decide_eq_true_eq]
  omega

end Layout

end Flow

/-! ## §3 Within the border -/

namespace Rect

variable {area : Rect} (onScreen : area.OnScreen)
include onScreen

theorem one_le_y_inside (some : 1 ≤ area.height) : 1 ≤ area.inside.y := by
  have bottom := onScreen.bottom
  have one_le_last : 1 ≤ Screen.last := by decide
  simp only [inside, Rect.bottom, Screen.add]
  generalize Screen.last = last at *
  omega

theorem ends_of_onScreen (columns : 1 ≤ area.inside.width) :
    area.inside.x + area.inside.width < Screen.last := by
  have right := onScreen.right
  simp only [inside, Rect.right, Screen.add] at columns ⊢
  generalize Screen.last = last at *
  omega

theorem onScreen_inside (columns : 1 ≤ area.inside.width) : area.inside.OnScreen := by
  have bottom := onScreen.bottom
  refine ⟨Nat.le_of_lt (ends_of_onScreen onScreen columns), ?_⟩
  simp only [inside, Rect.bottom, Screen.add]
  generalize Screen.last = last at *
  omega

end Rect

section Shown

variable {area : Rect} (columns : 1 ≤ area.inside.width) (onScreen : area.OnScreen)
  {chips : List Chip} {cells : List Rect}
  (laid : Flow.cells area.inside (chips.map Chip.label) = .ok cells)
  (low : area.inside.y + 4 * Flow.rowCount cells - 1 ≤ Screen.last)
include columns onScreen laid low

/-- A board shows the first chips. -/
theorem BoardLayout.cells_eq_take {layout : BoardLayout} (h : ofChips chips area = .ok layout) :
    layout.cells = cells.take (Flow.fittingCount area.inside cells) := by
  simp only [ofChips, Fault.bind_eq_ok_iff] at h
  obtain ⟨cells', laid', h⟩ := h
  cases laid.symm.trans laid'
  cases h
  have ends := Rect.ends_of_onScreen onScreen columns
  have inside := Rect.onScreen_inside onScreen columns
  have front := Flow.pairwise_isWithin columns ends inside laid low
  rw [takeWhile_eq_filter front, filter_eq_take_countP front,
    Flow.countP_isWithin columns ends inside laid low]

/-- A palette shows the first chips on offer: as many as a board would of
the same labels. -/
theorem Palette.hits_eq_take {pool : IdentifierPool} {query : String} {hits : List Hit}
    (same : (pool.offered query).map Chip.label = chips.map Chip.label)
    (h : hitsIn pool query area = .ok hits) :
    hits.map Hit.cell = cells.take (Flow.fittingCount area.inside cells) ∧
      hits.map Hit.chip = (pool.offered query).take (Flow.fittingCount area.inside cells) := by
  obtain ⟨cells', laid', rfl⟩ := hitsIn_eq_ok_iff.mp h
  rw [same] at laid'
  cases laid.symm.trans laid'
  have ends := Rect.ends_of_onScreen onScreen columns
  have inside := Rect.onScreen_inside onScreen columns
  have length : cells.length = (pool.offered query).length := by
    rw [Flow.length_cells laid, ← same, List.length_map]
  have entry_cells := map_cell_entries length
  have front : (entries (pool.offered query) cells).Pairwise fun r s =>
      s.cell.isWithin area.inside = true → r.cell.isWithin area.inside = true := by
    have pairs := Flow.pairwise_isWithin columns ends inside laid low
    rwa [← entry_cells, List.pairwise_map] at pairs
  have count :
      (entries (pool.offered query) cells).countP (fun hit => hit.cell.isWithin area.inside) =
        Flow.fittingCount area.inside cells := by
    rw [← Flow.countP_isWithin columns ends inside laid low]
    conv_rhs => rw [← entry_cells, List.countP_map]
    rfl
  rw [filter_eq_take_countP front, count, List.map_take, List.map_take, entry_cells,
    map_chip_entries length]
  exact ⟨rfl, rfl⟩

/-- The height of the board is told by the rows of the layout within its
border. -/
theorem boardHeight_eq_ok_iff_rowCount {needed : Nat} :
    boardHeight chips area.width = .ok needed ↔
      4 * Flow.rowCount cells + 1 ≤ Screen.last ∧ needed = max (4 * Flow.rowCount cells + 1) 5 := by
  have ends := Rect.ends_of_onScreen onScreen columns
  have inside := Rect.onScreen_inside onScreen columns
  have top : area.inside.y ≤ Screen.last := Nat.le_of_add_right_le inside.bottom
  have widest : area.width ≤ Screen.last := Nat.le_of_add_left_le onScreen.right
  have room : roomOn area.width = area.inside.width := Nat.max_eq_left columns
  have rows : rowsOn chips area.width = Flow.rowCount cells := by
    rw [Flow.rowCount_eq_rowsTaken columns ends top laid low, rowsOn, room]
  rw [boardHeight_eq_ok_iff_rows widest, rows]

/-- So a board of that height shows all chips, and a lower one does not. -/
theorem fittingCount_eq_length_iff_height {needed : Nat}
    (measured : boardHeight chips area.width = .ok needed) :
    Flow.fittingCount area.inside cells = cells.length ↔ chips = [] ∨ needed ≤ area.height := by
  have ends := Rect.ends_of_onScreen onScreen columns
  have inside := Rect.onScreen_inside onScreen columns
  obtain ⟨-, rfl⟩ := (boardHeight_eq_ok_iff_rowCount columns onScreen laid low).mp measured
  have height : area.inside.height = area.height - 2 := rfl
  rw [Flow.fittingCount_eq_length_iff columns ends inside laid low, height]
  have length : cells.length = chips.length :=
    (Flow.length_cells laid).trans (List.length_map _)
  rcases cells with _ | ⟨cell, rest⟩
  · have none : chips = [] := List.eq_nil_of_length_eq_zero length.symm
    simp [none, Flow.rowCount]
  · have some : chips ≠ [] := List.ne_nil_of_length_pos (by rw [← length]; exact Nat.succ_pos _)
    have row : 1 ≤ Flow.rowCount (cell :: rest) :=
      Flow.length_le_rowCount (List.nodup_singleton cell.y) fun top htop =>
        ⟨cell, List.mem_cons_self, (List.mem_singleton.mp htop).symm⟩
    rw [or_iff_right some]
    omega

end Shown

/-! ## §4 The chips that are shown -/

/-- **Hidden chips are always the last ones**: let an area end on the
screen and have a column within its border. Then any chips are laid out
there and a board records them; and if the rows counted end above the last
row of the screen, it records the cells of just the first chips, as many
as have rows that end within the border. None of the others lies within
it. A palette records the same cells for the same labels, each with its
chip. An area of the board's height or more shows all chips, and a lower
one does not, unless there is none; and that height can be told in any
area but an empty one. -/
theorem shown_chips_are_first {area : Rect} (columns : 1 ≤ area.inside.width)
    (onScreen : area.OnScreen) (chips : List Chip) :
    ∃ cells layout, Flow.cells area.inside (chips.map Chip.label) = .ok cells ∧
      BoardLayout.ofChips chips area = .ok layout ∧
      (area.inside.y + 4 * Flow.rowCount cells - 1 ≤ Screen.last →
        let shown := Flow.fittingCount area.inside cells
        layout.cells = cells.take shown ∧
        (∀ cell ∈ layout.cells, cell.LiesIn area.inside) ∧
        (∀ cell ∈ cells.drop shown, ¬ cell.LiesIn area.inside) ∧
        (∀ (pool : IdentifierPool) (query : String),
          (pool.offered query).map Chip.label = chips.map Chip.label →
          ∃ hits, Palette.hitsIn pool query area = .ok hits ∧
            hits.map Hit.cell = layout.cells ∧
            hits.map Hit.chip = (pool.offered query).take shown) ∧
        (1 ≤ area.height → ∃ needed, boardHeight chips area.width = .ok needed) ∧
        ∀ needed, boardHeight chips area.width = .ok needed →
          (needed ≤ area.height → layout.cells.length = chips.length) ∧
          (chips ≠ [] → area.height < needed → layout.cells.length < chips.length)) := by
  have ends := Rect.ends_of_onScreen onScreen columns
  have inside := Rect.onScreen_inside onScreen columns
  have top : area.inside.y ≤ Screen.last := Nat.le_of_add_right_le inside.bottom
  obtain ⟨cells, laid⟩ : ∃ cells, Flow.cells area.inside (chips.map Chip.label) = .ok cells :=
    ⟨_, Flow.cells_eq columns ends top _⟩
  obtain ⟨layout, recorded⟩ : ∃ layout, BoardLayout.ofChips chips area = .ok layout := by
    simp only [BoardLayout.ofChips, Fault.bind_eq_ok_iff]
    exact ⟨_, _, laid, rfl⟩
  refine ⟨cells, layout, laid, recorded, fun low => ?_⟩
  have first := BoardLayout.cells_eq_take columns onScreen laid low recorded
  obtain ⟨inFront, behind⟩ := Flow.liesIn_take_and_not_drop columns ends inside laid low
  refine ⟨first, first ▸ inFront, behind, fun pool query same => ?_, fun high => ?_,
    fun needed measured => ?_⟩
  · have offers := laid
    rw [← same] at offers
    obtain ⟨hits, hhits⟩ : ∃ hits, Palette.hitsIn pool query area = .ok hits :=
      ⟨_, Palette.hitsIn_eq_ok_iff.mpr ⟨cells, offers, rfl⟩⟩
    rw [first]
    exact ⟨hits, hhits, Palette.hits_eq_take columns onScreen laid low same hhits⟩
  · refine ⟨_, (boardHeight_eq_ok_iff_rowCount columns onScreen laid low).mpr ⟨?_, rfl⟩⟩
    have below := Rect.one_le_y_inside onScreen high
    simp only [Screen.last] at low ⊢
    omega
  · have length : cells.length = chips.length :=
      (Flow.length_cells laid).trans (List.length_map _)
    have all := fittingCount_eq_length_iff_height columns onScreen laid low measured
    have most : Flow.fittingCount area.inside cells ≤ cells.length := List.countP_le_length
    rw [first, List.length_take, Nat.min_eq_left most, ← length]
    refine ⟨fun high => all.mpr (.inr high), fun some lower => ?_⟩
    refine Nat.lt_of_le_of_ne most fun full => ?_
    rcases all.mp full with none | high
    · exact some none
    · exact Nat.not_lt.mpr high lower

/-- Five chips in three rows, the first of which fits: a board shows two
chips, and so does a palette that has the same five on offer; at thirteen
rows the board shows all of them, and at twelve it does not. -/
theorem shown_chips_are_first_two :
    let pool := IdentifierPool.ofLabels ["tacos"]
    let chips := pool.offered ""
    let area : Rect := ⟨0, 0, 20, 5⟩
    1 ≤ area.inside.width ∧ area.OnScreen ∧
      (∃ layout hits, BoardLayout.ofChips chips area = .ok layout ∧
        layout.cells = [⟨1, 1, 7, 3⟩, ⟨9, 1, 6, 3⟩] ∧
        Palette.hitsIn pool "" area = .ok hits ∧ hits.map Hit.cell = layout.cells ∧
        hits.map Hit.chip = [.condition .and, .condition .or]) ∧
      boardHeight chips 20 = .ok 13 ∧
      (∃ layout, BoardLayout.ofChips chips ⟨0, 0, 20, 13⟩ = .ok layout ∧ layout.cells.length = 5) ∧
      ∃ layout, BoardLayout.ofChips chips ⟨0, 0, 20, 12⟩ = .ok layout ∧
        layout.cells.length < 5 := by
  intro pool chips area
  let laidOut : List Rect :=
    [⟨1, 1, 7, 3⟩, ⟨9, 1, 6, 3⟩, ⟨1, 5, 5, 3⟩, ⟨7, 5, 5, 3⟩, ⟨1, 9, 9, 3⟩]
  have measured : boardHeight chips 20 = .ok 13 := by decide +kernel
  have columns : 1 ≤ area.inside.width := by decide
  have onScreen : area.OnScreen := ⟨by decide, by decide⟩
  refine ⟨columns, onScreen, ?_, measured, ?_, ?_⟩
  · obtain ⟨cells, layout, laid, recorded, shown⟩ := shown_chips_are_first columns onScreen chips
    have values : Flow.cells area.inside (chips.map Chip.label) = .ok laidOut := by decide +kernel
    obtain rfl : laidOut = cells := Except.ok.inj (values.symm.trans laid)
    obtain ⟨first, -, -, offers, -⟩ := shown (by decide)
    obtain ⟨hits, hhits, hitCells, hitChips⟩ := offers pool "" rfl
    have two : Flow.fittingCount area.inside laidOut = 2 := by decide
    rw [two] at first hitChips
    exact ⟨layout, hits, recorded, first, hhits, hitCells, hitChips.trans (by decide)⟩
  · have enough : Rect.OnScreen ⟨0, 0, 20, 13⟩ := ⟨by decide, by decide⟩
    obtain ⟨cells, layout, laid, recorded, shown⟩ := shown_chips_are_first (by decide) enough chips
    have values : Flow.cells (Rect.inside ⟨0, 0, 20, 13⟩) (chips.map Chip.label) = .ok laidOut := by
      decide +kernel
    obtain rfl : laidOut = cells := Except.ok.inj (values.symm.trans laid)
    obtain ⟨-, -, -, -, -, heights⟩ := shown (by decide)
    exact ⟨layout, recorded, (heights 13 measured).1 (by decide)⟩
  · have lower : Rect.OnScreen ⟨0, 0, 20, 12⟩ := ⟨by decide, by decide⟩
    obtain ⟨cells, layout, laid, recorded, shown⟩ := shown_chips_are_first (by decide) lower chips
    have values : Flow.cells (Rect.inside ⟨0, 0, 20, 12⟩) (chips.map Chip.label) = .ok laidOut := by
      decide +kernel
    obtain rfl : laidOut = cells := Except.ok.inj (values.symm.trans laid)
    obtain ⟨-, -, -, -, -, heights⟩ := shown (by decide)
    exact ⟨layout, recorded, (heights 13 measured).2 (by decide) (by decide)⟩

end FilterChips

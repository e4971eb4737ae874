/-
FilterChips.Proofs.View.Limits — the sizes at which layouts and heights
pass the largest one.

Most sums on the screen stop at the last column or row. Three do not: the
step to the next chip, and the borders added to the rows of the board and
of the palette. They are faults when they pass the largest size, and this
says when they do.

* The step passes it only for a chip as wide as the whole screen can be, in
  an area of that width (`cells_eq_error_iff`). A bordered box is never so
  wide.
* The borders pass it when the rows of chips do not fit on any screen. The
  measured rows have stopped at the last one by then, but their number
  says the same in plain numbers (`rowsOn_eq`).

What a frame subtracts from its rows is never more than there is. This is
said by reading the subtractions strictly (`Strict.deal_eq`).
-/
import FilterChips.Proofs.Drag.Strict
import FilterChips.Proofs.View.Growth

namespace FilterChips

theorem ok_bind {ε α β : Type} (a : α) (f : α → Except ε β) : Except.ok a >>= f = f a := rfl

theorem Fault.bind_eq_error_iff {α β : Type} {x : Except Fault α} {f : α → Except Fault β}
    {fault : Fault} :
    x >>= f = .error fault ↔ x = .error fault ∨ ∃ a, x = .ok a ∧ f a = .error fault := by
  cases x <;> simp [bind, Except.bind]

/-! ## §1 The step to the next chip -/

namespace Flow

theorem sum_eq_error_iff {a b : Nat} {fault : Fault} :
    sum a b = .error fault ↔ Screen.last < a + b ∧ fault = .sizeOverflow := by
  by_cases h : a + b ≤ Screen.last <;> simp [sum, h, eq_comm, Nat.not_lt.mpr, Nat.lt_of_not_le]

theorem cellsFrom_eq_error_iff {area : Rect} {x y : Nat} {widths : List Nat} {fault : Fault} :
    cellsFrom area x y widths = .error fault ↔
      (∃ width ∈ widths, Screen.last < width + gap) ∧ fault = .sizeOverflow := by
  induction widths generalizing x y with
  | nil => simp [cellsFrom]
  | cons width widths ih =>
    simp only [cellsFrom, Fault.bind_eq_error_iff, sum_eq_error_iff, sum_eq_ok_iff, ih]
    by_cases wide : Screen.last < width + gap
    · simp [wide, Nat.not_le.mpr wide]
    · simp [wide, Nat.not_lt.mp wide]

/-- A layout overflows just when the area is as wide as can be and a chip
fills it. -/
theorem cells_eq_error_iff {area : Rect} (widest : area.width ≤ Screen.last)
    {labels : List String} {fault : Fault} :
    Flow.cells area labels = .error fault ↔
      (area.width = Screen.last ∧ ∃ label ∈ labels, 65531 ≤ textWidth label.toList) ∧
        fault = .sizeOverflow := by
  have fills : ∀ label, Screen.last < widthIn area label + gap ↔
      area.width = Screen.last ∧ 65531 ≤ textWidth label.toList := by
    intro label
    simp only [widthIn, Label.chipWidth, Label.chrome, Screen.add, gap, Screen.last] at widest ⊢
    omega
  simp only [Flow.cells, cellsFrom_eq_error_iff, List.mem_map, exists_exists_and_eq_and, fills,
    and_left_comm, exists_and_left]

theorem exists_cells_of_lt {area : Rect} (narrow : area.width < Screen.last)
    (labels : List String) : ∃ cells, Flow.cells area labels = .ok cells := by
  cases h : Flow.cells area labels with
  | ok cells => exact ⟨cells, rfl⟩
  | error fault =>
    obtain ⟨⟨full, -⟩, -⟩ := (cells_eq_error_iff (Nat.le_of_lt narrow)).mp h
    exact absurd full (Nat.ne_of_lt narrow)

/-! ## §2 Rows in plain numbers -/

/-- The rows that chips need in a bordered box when they are put one after
another: with a free column between two of them, none wider than the box,
and no sum that stops. -/
def rowsNeeded (width : Nat) (labels : List String) : Nat :=
  let room := width - 2
  rowsTaken room (labels.map fun label => min (textWidth label.toList + Label.chrome) (max room 1))

/-- Behind the end of a row, chips that leave no column free take a row
each. -/
theorem map_row_slotsFrom {room x : Nat} (past : room < x) (row : Nat) {widths : List Nat}
    (full : ∀ width ∈ widths, room ≤ width) :
    (slotsFrom room x row widths).map Slot.row = List.range' (row + 1) widths.length := by
  induction widths generalizing x row with
  | nil => rfl
  | cons width widths ih =>
    obtain ⟨fills, full⟩ := List.forall_mem_cons.mp full
    have next : 0 < x ∧ room < x + width := by omega
    rw [slotsFrom, if_pos next, List.map_cons, ih (by simp only [gap]; omega) (row + 1) full]
    rfl

theorem rowsTaken_eq_length {room : Nat} {widths : List Nat}
    (full : ∀ width ∈ widths, room ≤ width) : rowsTaken room widths = widths.length := by
  have rows : (slots room widths).map Slot.row = List.range widths.length := by
    cases widths with
    | nil => rfl
    | cons width widths =>
      obtain ⟨fills, full⟩ := List.forall_mem_cons.mp full
      have first : ¬ (0 < 0 ∧ room < 0 + width) := by omega
      rw [slots, slotsFrom, if_neg first, List.map_cons,
        map_row_slotsFrom (by simp only [gap]; omega) 0 full, List.range_eq_range']
      rfl
  refine eq_of_forall_lt_iff fun k => ?_
  rw [lt_rowsTaken_iff, ← List.mem_range, ← rows, List.mem_map]

theorem one_le_rowsTaken (room width : Nat) (widths : List Nat) :
    1 ≤ rowsTaken room (width :: widths) :=
  lt_rowsTaken_iff.mpr ⟨⟨0, 0, width⟩, by simp [slots, slotsFrom], rfl⟩

end Flow

/-- The rows measured on a board are those needed. -/
theorem rowsOn_eq {width : Nat} (widest : width ≤ Screen.last) (chips : List Chip) :
    rowsOn chips width = Flow.rowsNeeded width (chips.map Chip.label) := by
  have widths : (chips.map Chip.label).map (Flow.clip (roomOn width)) =
      (chips.map Chip.label).map fun label =>
        min (textWidth label.toList + Label.chrome) (max (width - 2) 1) := by
    refine List.map_congr_left fun label _ => ?_
    simp only [Flow.clip, Label.chipWidth, roomOn, Screen.add, Screen.last] at widest ⊢
    omega
  rw [rowsOn, Flow.rowsNeeded, widths]
  rcases Nat.eq_zero_or_pos (width - 2) with none | some
  · rw [roomOn, none, Flow.rowsTaken_eq_length, Flow.rowsTaken_eq_length]
    · exact fun _ _ => Nat.zero_le _
    · refine List.forall_mem_map.mpr fun label _ => ?_
      simp only [Label.chrome]
      omega
  · rw [roomOn, Nat.max_eq_left some]

/-! ## §3 The borders -/

section Heights

variable {width : Nat} (widest : width ≤ Screen.last)
include widest

theorem boardHeight_eq_sum (chips : List Chip) :
    let rows := Flow.rowsNeeded width (chips.map Chip.label)
    boardHeight chips width = Flow.sum (max (min (4 * rows - 1) Screen.last) 3) 2 := by
  rw [boardHeight, rowsWithin_eq widest, rowsOn_eq widest, ok_bind, Flow.chipHeight, borderRows]

theorem paletteHeight_eq_sum (pool : IdentifierPool) (query : String) :
    let rows := Flow.rowsNeeded width ((pool.offered query).map Chip.label)
    paletteHeight pool query width = Flow.sum (min (4 * rows - 1) Screen.last) 2 := by
  rw [paletteHeight, rowsWithin_eq widest, rowsOn_eq widest, ok_bind, borderRows]

end Heights

namespace Strict

/-- The difference of two sizes. -/
def subtract (a b : Nat) : Except Breach Nat :=
  if b ≤ a then .ok (a - b) else .error .belowZero

theorem subtract_of_le {a b : Nat} (h : b ≤ a) : subtract a b = .ok (a - b) :=
  if_pos h

/-- The rows that the board and the palette get in a frame when they need
so many. -/
def deal (height board palette : Nat) : Except Breach (Nat × Nat) := do
  let available := Frame.availableRows height
  let left ← subtract available (min board available)
  let paletteRows := min palette left
  let boardRows ← subtract available paletteRows
  .ok (boardRows, paletteRows)

/-- The board gets what the palette leaves. -/
theorem deal_eq (height board palette : Nat) :
    let available := Frame.availableRows height
    let rows := min palette (available - min board available)
    deal height board palette = .ok (available - rows, rows) := by
  intro available rows
  have left : subtract available (min board available) = .ok (available - min board available) :=
    subtract_of_le (Nat.min_le_right ..)
  have rest : subtract available rows = .ok (available - rows) :=
    subtract_of_le (Nat.le_trans (Nat.min_le_right ..) (Nat.sub_le ..))
  rw [deal, left, ok_bind]
  show (subtract available rows >>= _) = _
  rw [rest, ok_bind]

end Strict

namespace Frame

/-- A frame can be laid out, however narrow or low it is, when the heights
of its board and palette can be told. -/
theorem exists_layout_of_heights {app : App} {query : String} {width board palette : Nat}
    (widest : width ≤ Screen.last) (height : Nat)
    (hboard : boardHeight app.displaySequence width = .ok board)
    (hpalette : paletteHeight app.chips.pool query width = .ok palette) :
    let rows := min palette (availableRows height - min board (availableRows height))
    ∃ layout, Frame.layout app query width height = .ok layout ∧
      layout.areas = areas width height rows := by
  intro rows
  have dealt := paletteRows_eq height hboard hpalette
  have narrow (area : Rect) (h : area.width = width) : area.inside.width < Screen.last := by
    have inner : area.inside.width = width - 2 := by rw [Rect.inside, h]
    rw [inner]
    simp only [Screen.last] at widest ⊢
    omega
  obtain ⟨cells, boardLaid⟩ := Flow.exists_cells_of_lt
    (narrow (areas width height rows).board rfl) (app.displaySequence.map Chip.label)
  obtain ⟨hitCells, hitsLaid⟩ := Flow.exists_cells_of_lt
    (narrow (areas width height rows).palette rfl) ((app.chips.pool.offered query).map Chip.label)
  obtain ⟨shown, recorded⟩ : ∃ shown,
      BoardLayout.ofChips app.displaySequence (areas width height rows).board = .ok shown := by
    simp only [BoardLayout.ofChips, Fault.bind_eq_ok_iff]
    exact ⟨_, cells, boardLaid, rfl⟩
  have hits := Palette.hitsIn_eq_ok_iff.mpr ⟨hitCells, hitsLaid, rfl⟩
  exact ⟨⟨areas width height rows, shown, _⟩,
    layout_eq_ok_iff.mpr ⟨rows, dealt, rfl, recorded, hits⟩, rfl⟩

end Frame

/-! ## §4 Where sizes overflow -/

/-- **Sizes overflow just where chips need too many rows**: in a box of any
width a board tells its height as long as its chips need no more than
16383 rows, and from 16384 rows on the height overflows; so does that of a
palette. A layout in any area overflows just when the area is as wide as
can be and some label leaves no column of it for a gap; otherwise it has a
result. When both heights can be told, the subtractions of a frame of any
size stay above zero; the board and the palette get the rows they come to,
and the frame can be laid out. -/
theorem sizes_overflow_exactly :
    (∀ (chips : List Chip) (width : Nat), width ≤ Screen.last →
      let rows := Flow.rowsNeeded width (chips.map Chip.label)
      (rows ≤ 16383 → boardHeight chips width = .ok (max (4 * rows + 1) 5)) ∧
      (boardHeight chips width = .error .sizeOverflow ↔ 16384 ≤ rows)) ∧
    (∀ (pool : IdentifierPool) (query : String) (width : Nat), width ≤ Screen.last →
      let rows := Flow.rowsNeeded width ((pool.offered query).map Chip.label)
      (rows ≤ 16383 → paletteHeight pool query width = .ok (4 * rows + 1)) ∧
      (paletteHeight pool query width = .error .sizeOverflow ↔ 16384 ≤ rows)) ∧
    (∀ (area : Rect) (labels : List String), area.width ≤ Screen.last →
      let overflows := area.width = Screen.last ∧ ∃ label ∈ labels, 65531 ≤ textWidth label.toList
      (Flow.cells area labels = .error .sizeOverflow ↔ overflows) ∧
      (¬ overflows → ∃ cells, Flow.cells area labels = .ok cells)) ∧
    ∀ (app : App) (query : String) (width height board palette : Nat), width ≤ Screen.last →
      boardHeight app.displaySequence width = .ok board →
      paletteHeight app.chips.pool query width = .ok palette →
      ∃ boardRows paletteRows layout,
        Strict.deal height board palette = .ok (boardRows, paletteRows) ∧
        Frame.layout app query width height = .ok layout ∧
        layout.areas.board.height = boardRows ∧ layout.areas.palette.height = paletteRows := by
  refine ⟨fun chips width widest => ?_, fun pool query width widest => ?_,
    fun area labels widest => ?_,
    fun app query width height board palette widest hboard hpalette => ?_⟩
  · intro rows
    rw [boardHeight_eq_sum widest, Flow.sum_eq_ok_iff, Flow.sum_eq_error_iff, and_iff_left rfl]
    simp only [Screen.last]
    omega
  · intro rows
    have some : 1 ≤ rows := Flow.one_le_rowsTaken ..
    rw [paletteHeight_eq_sum widest, Flow.sum_eq_ok_iff, Flow.sum_eq_error_iff, and_iff_left rfl]
    simp only [Screen.last]
    omega
  · intro overflows
    refine ⟨(Flow.cells_eq_error_iff widest).trans (and_iff_left rfl), fun within => ?_⟩
    cases h : Flow.cells area labels with
    | ok cells => exact ⟨cells, rfl⟩
    | error fault => exact absurd ((Flow.cells_eq_error_iff widest).mp h).1 within
  · obtain ⟨layout, laid, areas⟩ := Frame.exists_layout_of_heights widest height hboard hpalette
    refine ⟨_, _, layout, Strict.deal_eq height board palette, laid, ?_, ?_⟩
    · rw [areas]
      rfl
    · rw [areas]
      rfl

/-- Letters take a column each. -/
theorem textWidth_replicate (n : Nat) : textWidth (List.replicate n 'a') = n := by
  have letters : Width.ofText (List.replicate n 'a') = ((n : Int), Width.Behind.nothing) := by
    induction n with
    | zero => rfl
    | succ n ih =>
      rw [List.replicate_succ, Width.ofText, List.foldr_cons, ← Width.ofText, ih]
      rfl
  rw [textWidth, letters, Int.toNat_natCast]

/-- The last number of rows that a board can tell and the first that it
cannot, in two columns, which are all border; the longest label that leaves
a column and the first that does not; and a frame of six rows, of which the
board takes both that are left. -/
theorem sizes_overflow_at_last_row :
    let chips (n : Nat) := List.replicate n (Chip.identifier "sushi")
    let label (n : Nat) := String.ofList (List.replicate n 'a')
    let whole : Rect := ⟨0, 0, 65535, 0⟩
    let app := App.start (.ofInitial (.ofLabels ["tacos"]) ["pizza", "AND"]) .standard
    boardHeight (chips 16383) 2 = .ok 65533 ∧
      boardHeight (chips 16384) 2 = .error .sizeOverflow ∧
      paletteHeight (.ofLabels ["tacos"]) "" 20 = .ok 13 ∧
      (∃ cells, Flow.cells whole [label 65530] = .ok cells) ∧
      Flow.cells whole [label 65531] = .error .sizeOverflow ∧
      ∃ layout, Strict.deal 6 5 5 = .ok (2, 0) ∧ Frame.layout app "" 40 6 = .ok layout ∧
        layout.areas.board.height = 2 ∧ layout.areas.palette.height = 0 := by
  intro chips label whole app
  obtain ⟨boards, palettes, layouts, frames⟩ := sizes_overflow_exactly
  have rows (n : Nat) : Flow.rowsNeeded 2 ((chips n).map Chip.label) = n := by
    rw [Flow.rowsNeeded, Flow.rowsTaken_eq_length fun _ _ => Nat.zero_le _]
    simp [chips]
  have columns (n : Nat) : textWidth (label n).toList = n := by
    rw [String.toList_ofList, textWidth_replicate]
  have two : 2 ≤ Screen.last := by decide
  refine ⟨?_, ?_, ?_, ?_, ?_, ?_⟩
  · have told := (boards (chips 16383) 2 two).1
    rw [rows] at told
    exact told (Nat.le_refl _)
  · exact (boards (chips 16384) 2 two).2.mpr (rows 16384).ge
  · have three : Flow.rowsNeeded 20 ((IdentifierPool.offered (.ofLabels ["tacos"]) "").map
        Chip.label) = 3 := by decide +kernel
    have told := (palettes (.ofLabels ["tacos"]) "" 20 (by decide)).1
    rw [three] at told
    exact told (by decide)
  · refine (layouts whole _ (Nat.le_refl _)).2 ?_
    rintro ⟨-, other, hother, wide⟩
    rw [List.mem_singleton.mp hother, columns] at wide
    omega
  · exact (layouts whole _ (Nat.le_refl _)).1.mpr
      ⟨rfl, label 65531, List.mem_singleton_self _, (columns 65531).ge⟩
  · have board : boardHeight app.displaySequence 40 = .ok 5 := by decide +kernel
    have palette : paletteHeight app.chips.pool "" 40 = .ok 5 := by decide +kernel
    obtain ⟨boardRows, paletteRows, layout, dealt, laid, boardHas, paletteHas⟩ :=
      frames app "" 40 6 5 5 (by decide) board palette
    have values : Strict.deal 6 5 5 = .ok (2, 0) := by decide
    obtain ⟨rfl, rfl⟩ := Prod.mk.inj (Except.ok.inj (values.symm.trans dealt))
    exact ⟨layout, values, laid, boardHas, paletteHas⟩

end FilterChips

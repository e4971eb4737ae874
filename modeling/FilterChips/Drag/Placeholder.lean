/-
FilterChips.Drag.Placeholder — the slot a dragged chip would take for a position of the pointer.

Slots count positions in the sequence without the dragged chip, so a chip behind the dragged one has
a slot one less than its index, and the dragged chip's own index is the slot that changes nothing.
-/
import FilterChips.Drag.Geometry

namespace FilterChips

namespace Drag

/-- How far the pointer must travel before slots are looked for, and how far above and below a row it
still counts as within. -/
structure Config (α : Type) where
  distanceThreshold : α
  rowTolerance : α
  deriving DecidableEq

/-- The settings that hold unless others are given. -/
def Config.standard : Config Double := ⟨10, 30⟩

/-- The slot right before the chip at an index. -/
def slotBefore (dragged i : Nat) : Nat :=
  if dragged < i then i - 1 else i

/-- The slot right after the chip at an index; the dragged chip has only one slot of its own. -/
def slotAfter (dragged i : Nat) : Nat :=
  if i = dragged then i else slotBefore dragged i + 1

variable {α : Type} [Coordinate α]

/--
The slot after the last of some chips whose middle the pointer has passed, looking no further than
the first chip whose middle it has not passed; `slot` is the answer when there is no chip to look at.
-/
def slotAlong (dragged : Nat) (x : α) (slot : Nat) : List (Member α) → Nat
  | [] => slot
  | m :: rest =>
    if m.index = dragged then slotAlong dragged x slot rest
    else if m.rect.midX < x then slotAlong dragged x (slotAfter dragged m.index) rest
    else slotBefore dragged m.index

/-- The slot within a row for a pointer at `x`. -/
def slotInRow? (dragged : Nat) (x : α) (row : Row α) : Option Nat := do
  let first ← row.members.head?
  let last ← row.members.getLast?
  if x < first.rect.midX then
    some (slotBefore dragged first.index)
  else
    some (slotAlong dragged x (slotAfter dragged last.index) row.members)

/-- Whether the pointer is still so near its start that nothing is to move. -/
def Config.isResting (config : Config α) (start pointer : Point α) : Bool :=
  Coordinate.shorterThan (start.x - pointer.x) (start.y - pointer.y) config.distanceThreshold

/-- The slot for a pointer: none while it rests near its start or lies in no row. -/
def placeholderFor (config : Config α) (dragged : Nat) (start pointer : Point α)
    (rects : List (ChipRect α)) : Option Nat :=
  if config.isResting start pointer then none
  else
    ((groupRows rects).find? (·.spans config.rowTolerance pointer.y)).bind
      (slotInRow? dragged pointer.x)

/-- Near its start a drag finds no slot. -/
theorem placeholderFor_of_isResting {config : Config α} {start pointer : Point α}
    (near : config.isResting start pointer = true) (dragged : Nat) (rects : List (ChipRect α)) :
    placeholderFor config dragged start pointer rects = none := by
  simp [placeholderFor, near]

/-- Farther away it finds the slot within the first row that spans the height of the pointer. -/
theorem placeholderFor_of_active {config : Config α} {start pointer : Point α}
    {rects : List (ChipRect α)} {row : Row α} (moved : config.isResting start pointer = false)
    (active : (groupRows rects).find? (·.spans config.rowTolerance pointer.y) = some row)
    (dragged : Nat) :
    placeholderFor config dragged start pointer rects = slotInRow? dragged pointer.x row := by
  simp [placeholderFor, moved, active]

end Drag

end FilterChips

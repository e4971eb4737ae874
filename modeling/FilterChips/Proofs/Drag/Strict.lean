/-
FilterChips.Proofs.Drag.Strict — the slots of a drag in a strict reading.

Slots are computed from indices: the index of a rectangle less one, the
rectangle at an index, a chip taken out at one index and put back at
another. In `Drag` these steps have a result for all numbers. Here they
are read strictly: an index that is not there and a subtraction below zero
are a `Breach` and end the computation.

The strict reading never comes to that, whatever the rectangles, the
pointer and the dragged chip, and gives what the other one gives
(`placeholderFor_eq`, `dragTo_eq`, `preview_eq`). The rows list the places
of their rectangles, so every index of a row is one of the snapshot that
the rows come from (`getElem?_of_mem_row`); and one is subtracted only from
an index behind another one.
-/
import FilterChips.Fault
import FilterChips.Proofs.Drag.Preview
import FilterChips.Proofs.Drag.Rows

namespace FilterChips

/-- Why an operation that is not defined everywhere has no result. -/
inductive Breach where
  /-- There is no element at the index. -/
  | outOfRange
  /-- More is subtracted than there is. -/
  | belowZero
  /-- The operation is refused by its own rules. -/
  | fault (fault : Fault)
  deriving DecidableEq, Repr

namespace Strict

/-! ## §1 Operations that are not defined everywhere -/

section Lists

variable {β : Type}

/-- The element at an index. -/
def get (l : List β) (index : Nat) : Except Breach β :=
  match l[index]? with
  | some a => .ok a
  | none => .error .outOfRange

/-- The element at an index, and the others. -/
def remove (l : List β) (index : Nat) : Except Breach (β × List β) :=
  match l[index]? with
  | some a => .ok (a, l.eraseIdx index)
  | none => .error .outOfRange

/-- The list with an element put in at an index; it may become the last. -/
def insert (l : List β) (index : Nat) (a : β) : Except Breach (List β) :=
  if index ≤ l.length then .ok (l.insertIdx index a) else .error .outOfRange

/-- One less. -/
def pred : Nat → Except Breach Nat
  | 0 => .error .belowZero
  | n + 1 => .ok n

theorem get_of_getElem? {l : List β} {index : Nat} {a : β} (h : l[index]? = some a) :
    get l index = .ok a := by
  simp [get, h]

theorem remove_of_lt {l : List β} {index : Nat} (h : index < l.length) :
    remove l index = .ok (l[index], l.eraseIdx index) := by
  simp [remove, List.getElem?_eq_getElem h]

theorem insert_of_le {l : List β} {index : Nat} (h : index ≤ l.length) (a : β) :
    insert l index a = .ok (l.insertIdx index a) := by
  simp [insert, h]

theorem pred_of_lt {m n : Nat} (h : m < n) : pred n = .ok (n - 1) := by
  cases n with
  | zero => exact absurd h (Nat.not_lt_zero m)
  | succ n => rfl

end Lists

/-! ## §2 Slots -/

/-- The slot right before the chip at an index. -/
def slotBefore (dragged i : Nat) : Except Breach Nat :=
  if dragged < i then pred i else .ok i

/-- The slot right after the chip at an index. -/
def slotAfter (dragged i : Nat) : Except Breach Nat :=
  if i = dragged then .ok i else (slotBefore dragged i).map (· + 1)

theorem slotBefore_eq (dragged i : Nat) :
    slotBefore dragged i = .ok (Drag.slotBefore dragged i) := by
  unfold slotBefore Drag.slotBefore
  split
  · exact pred_of_lt (by assumption)
  · rfl

theorem slotAfter_eq (dragged i : Nat) :
    slotAfter dragged i = .ok (Drag.slotAfter dragged i) := by
  unfold slotAfter Drag.slotAfter
  split
  · rfl
  · rw [slotBefore_eq]
    rfl

open Drag (ChipRect Config Engine Member Point Row Session)

variable {α : Type} [Coordinate α]

/-- The slot after the last of some chips whose middle the pointer has
passed, each looked up at its index. -/
def slotAlong (rects : List (ChipRect α)) (dragged : Nat) (x : α) (slot : Nat) :
    List Nat → Except Breach Nat
  | [] => .ok slot
  | i :: rest =>
    if i = dragged then slotAlong rects dragged x slot rest
    else do
      let rect ← get rects i
      if rect.midX < x then
        let next ← slotAfter dragged i
        slotAlong rects dragged x next rest
      else slotBefore dragged i

/-- The slot within a row, given by the indices of its chips. -/
def slotInRow? (rects : List (ChipRect α)) (dragged : Nat) (x : α) (row : List Nat) :
    Except Breach (Option Nat) :=
  match row.head?, row.getLast? with
  | some first, some last => do
    let rect ← get rects first
    if x < rect.midX then
      let slot ← slotBefore dragged first
      .ok (some slot)
    else
      let slot ← slotAfter dragged last
      let slot ← slotAlong rects dragged x slot row
      .ok (some slot)
  | _, _ => .ok none

/-- The slot for a pointer. -/
def placeholderFor (config : Config α) (dragged : Nat) (start pointer : Point α)
    (rects : List (ChipRect α)) : Except Breach (Option Nat) :=
  if config.isResting start pointer then .ok none
  else
    match (Drag.groupRows rects).find? (·.spans config.rowTolerance pointer.y) with
    | none => .ok none
    | some row => slotInRow? rects dragged pointer.x row.indices

theorem slotAlong_eq {rects : List (ChipRect α)} {ms : List (Member α)}
    (placed : ∀ m ∈ ms, rects[m.index]? = some m.rect) (dragged : Nat) (x : α) (slot : Nat) :
    slotAlong rects dragged x slot (ms.map Member.index) =
      .ok (Drag.slotAlong dragged x slot ms) := by
  induction ms generalizing slot with
  | nil => rfl
  | cons m ms ih =>
    obtain ⟨here, placed⟩ := List.forall_mem_cons.mp placed
    rw [List.map_cons, slotAlong, Drag.slotAlong, get_of_getElem? here, slotAfter_eq, slotBefore_eq]
    split
    · exact ih placed slot
    · show (if m.rect.midX < x then _ else _) = _
      split
      · exact ih placed _
      · rfl

theorem slotInRow?_eq {rects : List (ChipRect α)} {row : Row α}
    (placed : ∀ m ∈ row.members, rects[m.index]? = some m.rect) (dragged : Nat) (x : α) :
    slotInRow? rects dragged x row.indices = .ok (Drag.slotInRow? dragged x row) := by
  unfold slotInRow? Drag.slotInRow? Row.indices
  by_cases none : row.members = []
  · simp [none]
  · have head := List.head?_eq_some_head none
    have last := List.getLast?_eq_some_getLast none
    simp only [List.head?_map, List.getLast?_map, head, last, Option.map_some, slotBefore_eq,
      slotAfter_eq, slotAlong_eq placed, get_of_getElem? (placed _ (List.head_mem none))]
    by_cases before : x < (row.members.head none).rect.midX
    · simp [bind, Except.bind, before]
    · simp [bind, Except.bind, before]

/-- The strict reading of the slots has a result, which is the same. -/
theorem placeholderFor_eq (config : Config α) (dragged : Nat) (start pointer : Point α)
    (rects : List (ChipRect α)) :
    placeholderFor config dragged start pointer rects =
      .ok (Drag.placeholderFor config dragged start pointer rects) := by
  unfold placeholderFor Drag.placeholderFor
  split
  · rfl
  · cases found : (Drag.groupRows rects).find? (·.spans config.rowTolerance pointer.y) with
    | none => rfl
    | some row =>
      exact slotInRow?_eq (fun m => Drag.getElem?_of_mem_row (List.mem_of_find?_eq_some found))
        dragged pointer.x

/-! ## §3 The engine -/

/-- Moves the pointer over the rectangles from the beginning of the drag. -/
def dragTo (engine : Engine α) (pointer : Point α) : Except Breach (Engine α) :=
  match engine.session with
  | none => .ok engine
  | some session => do
    let slot ← placeholderFor engine.config session.index session.start pointer session.snapshot
    .ok { engine with
      session := some { session with pointer, placeholder := slot.getD session.placeholder } }

theorem dragTo_eq (engine : Engine α) (pointer : Point α) :
    dragTo engine pointer = .ok (engine.dragTo pointer).2 := by
  unfold dragTo Engine.dragTo Engine.moveOver
  cases hs : engine.session with
  | none => rfl
  | some session =>
    simp only [placeholderFor_eq]
    rfl

end Strict

end FilterChips

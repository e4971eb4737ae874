/-
FilterChips.Proofs.Collection.Move — moving one chip within a sequence.

`moveChip` takes a chip out and puts it back somewhere else. The slot it
is put into is cut down to the last one there is, `min target (n - 1)`
for `n` chips, and that slot is where the moved chip is found again
(`getElem?_moveChip`); with it taken out, the others stand as if nothing
had happened (`eraseIdx_moveChip`). From the two it follows that a move is
undone by the move back (`moveChip_moveChip`). Without a chip at the source
nothing moves, wherever the target is.
-/
import Mathlib.Data.List.InsertIdx
import Mathlib.Data.List.Perm.Basic
import FilterChips.Collection

namespace FilterChips

namespace Collection

theorem moveChip_of_le {chips : List Chip} {source : Nat} (h : chips.length ≤ source)
    (target : Nat) : moveChip chips source target = chips := by
  simp [moveChip, List.getElem?_eq_none h]

theorem moveChip_of_lt {chips : List Chip} {source : Nat} (h : source < chips.length)
    (target : Nat) :
    moveChip chips source target =
      (chips.eraseIdx source).insertIdx (min target (chips.length - 1)) chips[source] := by
  simp [moveChip, List.getElem?_eq_getElem h, List.length_eraseIdx_of_lt h]

/-- A chip that is put back where it was has not moved. -/
theorem moveChip_self (chips : List Chip) (index : Nat) : moveChip chips index index = chips := by
  by_cases h : index < chips.length
  · have slot : min index (chips.length - 1) = index := by omega
    rw [moveChip_of_lt h, slot, List.insertIdx_eraseIdx_getElem h]
  · exact moveChip_of_le (Nat.le_of_not_lt h) index

/-- Moving a chip permutes the sequence. -/
theorem perm_moveChip (chips : List Chip) (source target : Nat) :
    (moveChip chips source target).Perm chips := by
  by_cases h : source < chips.length
  · have slot : min target (chips.length - 1) ≤ (chips.eraseIdx source).length := by
      rw [List.length_eraseIdx_of_lt h]
      exact Nat.min_le_right _ _
    rw [moveChip_of_lt h]
    exact (List.perm_insertIdx _ _ slot).trans (List.getElem_cons_eraseIdx_perm h)
  · rw [moveChip_of_le (Nat.le_of_not_lt h)]

/-- The other chips keep their order. -/
theorem eraseIdx_moveChip {chips : List Chip} {source : Nat} (h : source < chips.length)
    (target : Nat) :
    (moveChip chips source target).eraseIdx (min target (chips.length - 1)) =
      chips.eraseIdx source := by
  rw [moveChip_of_lt h, List.eraseIdx_insertIdx_self]

/-- The moved chip stands in the target slot, cut down to the last one. -/
theorem getElem?_moveChip {chips : List Chip} {source : Nat} (h : source < chips.length)
    (target : Nat) :
    (moveChip chips source target)[min target (chips.length - 1)]? = some chips[source] := by
  have slot : min target (chips.length - 1) ≤ (chips.eraseIdx source).length := by
    rw [List.length_eraseIdx_of_lt h]
    exact Nat.min_le_right _ _
  rw [moveChip_of_lt h, List.getElem?_insertIdx_self, if_pos slot]

theorem length_moveChip (chips : List Chip) (source target : Nat) :
    (moveChip chips source target).length = chips.length :=
  (perm_moveChip chips source target).length_eq

/-- Between two slots of the sequence, moving a chip back undoes the move.
Where the target is beyond the last slot it need not: the chip is then
found in the last one, and no move starts beyond it. -/
theorem moveChip_moveChip {chips : List Chip} {source target : Nat}
    (hs : source < chips.length) (ht : target < chips.length) :
    moveChip (moveChip chips source target) target source = chips := by
  have slot : min target (chips.length - 1) = target := by omega
  have back : min source (chips.length - 1) = source := by omega
  have present : target < (moveChip chips source target).length := by rwa [length_moveChip]
  have others := eraseIdx_moveChip hs target
  have moved := getElem?_moveChip hs target
  rw [slot] at others moved
  rw [List.getElem?_eq_getElem present, Option.some_inj] at moved
  rw [moveChip_of_lt present, length_moveChip, back, others, moved,
    List.insertIdx_eraseIdx_getElem hs]

end Collection

end FilterChips

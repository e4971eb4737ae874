/-
FilterChips.Proofs.Text.CodeRanges — sets of characters that have none in
common.

Tables of characters are long, and to look up each member of one in another
takes too many steps. `CodeRanges.apart` goes through the two side by side:
ranges that end before the next one begins are behind it for good.
-/
import FilterChips.Text.CodeRanges
import Mathlib.Data.List.Chain

namespace FilterChips

namespace CodeRanges

/-- Whether no range of the first set meets one of the second. Both are run
through once. -/
def apart : CodeRanges → CodeRanges → Bool
  | [], _ => true
  | r :: a, b =>
    let rest := b.dropWhile fun s => s.2 < r.1
    rest.head?.all (fun s => r.2 < s.1) && apart a rest

theorem holds_dropWhile {b : CodeRanges} {first n : Nat} (h : b.holds n = true) (le : first ≤ n) :
    holds (b.dropWhile fun s => s.2 < first) n = true := by
  induction b with
  | nil => exact h
  | cons s b ih =>
    by_cases below : s.2 < first
    · rw [List.dropWhile_cons_of_pos (by simpa using below)]
      have behind : ¬ n ≤ s.2 := by omega
      simp only [holds, behind, decide_false, Bool.false_or] at h
      split at h
      · cases h
      · exact ih h
    · rwa [List.dropWhile_cons_of_neg (by simpa using below)]

theorem holds_eq_false_of_head {b : CodeRanges} {last n : Nat}
    (head : b.head?.all (fun s => last < s.1) = true) (le : n ≤ last) : b.holds n = false := by
  cases b with
  | nil => rfl
  | cons s b =>
    simp only [List.head?_cons, Option.all_some, decide_eq_true_eq] at head
    rw [holds, if_pos (by omega)]

theorem holds_eq_false_of_apart {a b : CodeRanges} (ascending : a.Pairwise fun r s => r.1 ≤ s.1)
    (h : apart a b = true) {n : Nat} (found : a.holds n = true) : b.holds n = false := by
  obtain ⟨t, ht, first, last⟩ := exists_of_holds found
  clear found
  induction a generalizing b with
  | nil => cases ht
  | cons r a ih =>
    obtain ⟨before, ascending⟩ := List.pairwise_cons.mp ascending
    simp only [apart, Bool.and_eq_true] at h
    have rest : holds (b.dropWhile fun s => s.2 < r.1) n = false := by
      rcases List.mem_cons.mp ht with rfl | ht
      · exact holds_eq_false_of_head h.1 last
      · exact ih ascending h.2 ht
    have low : r.1 ≤ n := by
      rcases List.mem_cons.mp ht with rfl | ht
      · exact first
      · exact Nat.le_trans (before t ht) first
    refine Bool.eq_false_iff.mpr fun found => ?_
    have kept := holds_dropWhile found low
    rw [rest] at kept
    cases kept

/-- A character of one set is not in another one that is apart. -/
theorem contains_eq_false_of_apart {a b : CodeRanges}
    (ascending : (a.map Prod.fst).IsChain (· ≤ ·)) (h : apart a b = true) {c : Char}
    (found : a.contains c = true) : b.contains c = false :=
  holds_eq_false_of_apart (List.pairwise_map.mp ascending.pairwise) h found

end CodeRanges

end FilterChips

/-
FilterChips.Text.CodeRanges — sets of characters, as ascending ranges of code points.
-/
namespace FilterChips

/-- A set of code points: the first and the last of each range, in ascending order. -/
abbrev CodeRanges := List (Nat × Nat)

/-- Whether one of the ranges holds a code point; the search ends at the first range behind it. -/
def CodeRanges.holds (ranges : CodeRanges) (n : Nat) : Bool :=
  match ranges with
  | [] => false
  | (first, last) :: rest => if n < first then false else n ≤ last || holds rest n

/-- Whether one of the ranges holds a character. -/
def CodeRanges.contains (ranges : CodeRanges) (c : Char) : Bool :=
  ranges.holds c.toNat

/-- A code point that is found lies in one of the ranges. -/
theorem CodeRanges.exists_of_holds {ranges : CodeRanges} {n : Nat} (h : ranges.holds n = true) :
    ∃ r ∈ ranges, r.1 ≤ n ∧ n ≤ r.2 := by
  induction ranges with
  | nil => simp [holds] at h
  | cons r rest ih =>
    unfold holds at h
    split at h
    · simp at h
    · rw [Bool.or_eq_true, decide_eq_true_eq] at h
      rcases h with h | h
      · exact ⟨r, by simp, by omega, h⟩
      · obtain ⟨s, hs, hn⟩ := ih h
        exact ⟨s, by simp [hs], hn⟩

end FilterChips

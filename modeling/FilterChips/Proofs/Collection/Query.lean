/-
FilterChips.Proofs.Collection.Query — what a query finds.

A query is looked up in lower case, and so is each label. If the query is a
part of a label, its lower case is a part of that of the label, and the chip
is found (`part_of_label_found`), unless the query has a sigma that ends a
word in one of the two and not in the other: on its own a sigma ends
nothing, at the end of a word it becomes another letter.
-/
import FilterChips.Pool
import FilterChips.Proofs.Text.LowerCase

namespace FilterChips

namespace IdentifierPool

open LetterCase (KeepsSigmas)

variable {pool : IdentifierPool} {chip : Chip} {query : String}

theorem mem_matching_iff :
    chip ∈ pool.matching query ↔
      chip ∈ pool.chips ∧ needle query <:+: lowerCase chip.label.toList := by
  rw [matching, List.mem_filter, occursIn_iff]

theorem mem_offered_of_mem_matching (h : chip ∈ pool.matching query) :
    chip ∈ pool.offered query :=
  List.mem_append_right _ h

theorem needle_isInfix {before after : List Char} (keeps : KeepsSigmas before query.toList after) :
    needle query <:+: lowerCase (before ++ query.toList ++ after) :=
  (LetterCase.lowerCase_trim_isInfix query.toList).trans (LetterCase.lowerCase_isInfix keeps)

/-- **A part of a label finds its chip**: a chip of the pool is among those
that match a query, and among those on offer for it, when the query stands
somewhere in the label and each sigma of the query ends a word there just
when it does in the query alone. In particular any part of the label without
a sigma finds the chip. -/
theorem part_of_label_found (held : chip ∈ pool.chips) (query : String) :
    (∀ before after, chip.label.toList = before ++ query.toList ++ after →
      KeepsSigmas before query.toList after →
      chip ∈ pool.matching query ∧ chip ∈ pool.offered query) ∧
    (query.toList <:+: chip.label.toList → 'Σ' ∉ query.toList →
      chip ∈ pool.matching query ∧ chip ∈ pool.offered query) := by
  have found : ∀ before after, chip.label.toList = before ++ query.toList ++ after →
      KeepsSigmas before query.toList after →
      chip ∈ pool.matching query ∧ chip ∈ pool.offered query := by
    intro before after stands keeps
    have matching : chip ∈ pool.matching query :=
      mem_matching_iff.mpr ⟨held, stands ▸ needle_isInfix keeps⟩
    exact ⟨matching, mem_offered_of_mem_matching matching⟩
  refine ⟨found, fun ⟨before, after, stands⟩ none => ?_⟩
  exact found before after stands.symm (LetterCase.keepsSigmas_of_not_mem none before after)

/-- The end of a word with its sigma finds the word, and so does its
beginning. -/
theorem part_of_label_found_in_street :
    let street := Chip.ofLabel "ΟΔΟΣ"
    let pool := ofLabels ["ΟΔΟΣ", "ΠΟΛΗ"]
    street ∈ pool.chips ∧ street.label.toList = "Ο".toList ++ "ΔΟΣ".toList ++ [] ∧
      KeepsSigmas "Ο".toList "ΔΟΣ".toList [] ∧
      "ΟΔ".toList <:+: street.label.toList ∧ 'Σ' ∉ "ΟΔ".toList ∧
      (street ∈ pool.matching "ΔΟΣ" ∧ street ∈ pool.offered "ΔΟΣ") ∧
      (street ∈ pool.matching "ΟΔ" ∧ street ∈ pool.offered "ΟΔ") := by
  intro street pool
  have held : street ∈ pool.chips := by decide +kernel
  have stands : street.label.toList = "Ο".toList ++ "ΔΟΣ".toList ++ [] := by decide +kernel
  have keeps : KeepsSigmas "Ο".toList "ΔΟΣ".toList [] := by decide +kernel
  have part : "ΟΔ".toList <:+: street.label.toList := by decide +kernel
  have none : 'Σ' ∉ "ΟΔ".toList := by decide +kernel
  exact ⟨held, stands, keeps, part, none,
    (part_of_label_found held "ΔΟΣ").1 _ _ stands keeps,
    (part_of_label_found held "ΟΔ").2 part none⟩

/-- The last letter of a word does not find it: alone it is not final. -/
theorem final_sigma_not_found :
    let street := Chip.ofLabel "ΟΔΟΣ"
    let pool := ofLabels ["ΟΔΟΣ"]
    street ∈ pool.chips ∧ "Σ".toList <:+: street.label.toList ∧
      street ∉ pool.matching "Σ" ∧ street ∉ pool.offered "Σ" := by
  decide +kernel

end IdentifierPool

end FilterChips

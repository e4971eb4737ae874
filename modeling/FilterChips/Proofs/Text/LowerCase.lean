/-
FilterChips.Proofs.Text.LowerCase — the lower case of a part of a text.

A character has the same small letters wherever it stands, except for the
capital sigma: whether it ends a word depends on what stands around it. So
the lower case of a part is a part of the lower case of the whole, provided
that each sigma of the part ends a word in the whole just when it does in
the part alone (`lowerCase_isInfix`). To trim a text makes no difference to
its sigmas, since a blank has no case (`lowerCase_trim_isInfix`).
-/
import FilterChips.Proofs.Text.CodeRanges
import FilterChips.Text.Blank
import FilterChips.Text.LowerCase
import Mathlib.Data.List.TakeWhile

namespace FilterChips

namespace LetterCase

/-! ## §1 Parts of a text -/

/-- Whether a sigma between these characters ends a word. -/
def endsWord (before after : List Char) : Bool :=
  beginsCased before.reverse && !beginsCased after

/-- Every sigma of a part ends a word within the text just when it does so
in the part alone. -/
def KeepsSigmas (before part after : List Char) : Prop :=
  ∀ left right, part = left ++ 'Σ' :: right →
    endsWord (before ++ left) (right ++ after) = endsWord left right

/-- The sigmas are looked at one place after another. -/
theorem keepsSigmas_iff (before part after : List Char) :
    KeepsSigmas before part after ↔ ∀ i < part.length, part[i]? = some 'Σ' →
      endsWord (before ++ part.take i) (part.drop (i + 1) ++ after) =
        endsWord (part.take i) (part.drop (i + 1)) := by
  constructor
  · intro keeps i lt found
    obtain ⟨_, sigma⟩ := List.getElem?_eq_some_iff.mp found
    refine keeps (part.take i) (part.drop (i + 1)) ?_
    rw [← sigma, List.getElem_cons_drop, List.take_append_drop]
  · rintro keeps left right rfl
    simpa using keeps left.length (by simp) (by simp)

instance (before part after : List Char) : Decidable (KeepsSigmas before part after) :=
  decidable_of_iff _ (keepsSigmas_iff before part after).symm

theorem keepsSigmas_of_not_mem {part : List Char} (none : 'Σ' ∉ part) (before after : List Char) :
    KeepsSigmas before part after := by
  rintro left right rfl
  simp at none

/-- What stands before a text does not change the small letters of what
follows, which knows it as its past. -/
theorem exists_lowerAfter_append (before part rest : List Char) :
    ∃ front,
      lowerAfter before (part ++ rest) = front ++ lowerAfter (part.reverse ++ before) rest := by
  induction part generalizing before with
  | nil => exact ⟨[], rfl⟩
  | cons c part ih =>
    obtain ⟨front, lowered⟩ := ih (c :: before)
    simp only [List.cons_append, lowerAfter, lowered, List.reverse_cons, List.append_assoc]
    exact ⟨_, (List.append_assoc ..).symm⟩

theorem lowerAfter_append {outer inner part after : List Char}
    (keeps : ∀ left right, part = left ++ 'Σ' :: right →
      (beginsCased (left.reverse ++ outer) && !beginsCased (right ++ after)) =
        (beginsCased (left.reverse ++ inner) && !beginsCased right)) :
    lowerAfter outer (part ++ after) =
      lowerAfter inner part ++ lowerAfter (part.reverse ++ outer) after := by
  induction part generalizing outer inner with
  | nil => rfl
  | cons c part ih =>
    have later : lowerAfter (c :: outer) (part ++ after) =
        lowerAfter (c :: inner) part ++ lowerAfter (part.reverse ++ c :: outer) after :=
      ih fun left right split => by
        simpa using keeps (c :: left) right (by rw [split, List.cons_append])
    simp only [List.cons_append, lowerAfter, later, List.reverse_cons, List.append_assoc]
    split
    · rename_i sigma
      have here := keeps [] part (by rw [sigma, List.nil_append])
      simp only [List.reverse_nil, List.nil_append] at here
      rw [here]
      rfl
    · rfl

/-- The lower case of a part stands in that of the whole. -/
theorem lowerCase_isInfix {before part after : List Char} (keeps : KeepsSigmas before part after) :
    lowerCase part <:+: lowerCase (before ++ part ++ after) := by
  obtain ⟨front, lowered⟩ := exists_lowerAfter_append [] before (part ++ after)
  have here : lowerAfter before.reverse (part ++ after) =
      lowerAfter [] part ++ lowerAfter (part.reverse ++ before.reverse) after :=
    lowerAfter_append fun left right split => by
      simpa [endsWord] using keeps left right split
  refine ⟨front, lowerAfter (part.reverse ++ before.reverse) after, ?_⟩
  rw [lowerCase, lowerCase, List.append_assoc before, lowered, List.append_nil, here,
    List.append_assoc]

/-! ## §2 Blanks -/

/-- The blank characters. -/
def blankRanges : CodeRanges := [
  (0x9, 0xd), (0x20, 0x20), (0x85, 0x85), (0xa0, 0xa0), (0x1680, 0x1680), (0x2000, 0x200a),
  (0x2028, 0x2029), (0x202f, 0x202f), (0x205f, 0x205f), (0x3000, 0x3000)]

theorem contains_blankRanges {c : Char} (h : isBlank c = true) : blankRanges.contains c = true := by
  simp only [isBlank, Bool.or_eq_true, Bool.and_eq_true, decide_eq_true_eq] at h
  simp [CodeRanges.contains, CodeRanges.holds, blankRanges]
  omega

theorem toNat_A_le_of_isAlpha {c : Char} (h : c.isAlpha = true) : 'A'.toNat ≤ c.toNat := by
  rcases Bool.or_eq_true_iff.mp (show (c.isUpper || c.isLower) = true from h) with capital | small
  · exact (of_decide_eq_true capital).1
  · have low : 'a'.toNat ≤ c.toNat := of_decide_eq_true (Bool.and_eq_true_iff.mp small).1
    exact Nat.le_trans (by decide) low

/-- A blank has no case. -/
theorem isCased_of_isBlank {c : Char} (h : isBlank c = true) : isCased c = false := by
  have apart : casedRanges.contains c = false :=
    CodeRanges.contains_eq_false_of_apart (by decide) (by decide +kernel) (contains_blankRanges h)
  unfold isCased
  split
  · refine Bool.eq_false_iff.mpr fun letter => ?_
    have low : 65 ≤ c.toNat := toNat_A_le_of_isAlpha letter
    simp only [isBlank, Bool.or_eq_true, Bool.and_eq_true, decide_eq_true_eq] at h
    omega
  · exact apart

/-- Blanks at the end of a text are not what it begins with. -/
theorem beginsCased_append_blanks (cs : List Char) {blanks : List Char}
    (blank : ∀ c ∈ blanks, isBlank c = true) : beginsCased (cs ++ blanks) = beginsCased cs := by
  unfold beginsCased
  rw [List.dropWhile_append]
  split
  · rename_i none
    rw [List.isEmpty_iff.mp none]
    cases found : (blanks.dropWhile isIgnorable).head? with
    | none => rfl
    | some c =>
      have mem := (List.dropWhile_suffix isIgnorable).mem (List.mem_of_mem_head? found)
      simpa using isCased_of_isBlank (blank c mem)
  · rename_i some
    rw [List.head?_append_of_ne_nil _ (by simpa using some)]

/-- A text is what is left of it between two stretches of blanks. -/
theorem exists_trim (cs : List Char) :
    ∃ front back, cs = front ++ trim cs ++ back ∧
      (∀ c ∈ front, isBlank c = true) ∧ ∀ c ∈ back, isBlank c = true := by
  refine ⟨cs.takeWhile isBlank, ((cs.dropWhile isBlank).reverse.takeWhile isBlank).reverse, ?_,
    fun c => List.mem_takeWhile_imp, fun c mem => List.mem_takeWhile_imp (List.mem_reverse.mp mem)⟩
  rw [trim, List.append_assoc, ← List.reverse_append, List.takeWhile_append_dropWhile,
    List.reverse_reverse, List.takeWhile_append_dropWhile]

/-- To drop blanks at the ends leaves every small letter as it was. -/
theorem lowerCase_trim_isInfix (cs : List Char) : lowerCase (trim cs) <:+: lowerCase cs := by
  obtain ⟨front, back, split, before, after⟩ := exists_trim cs
  have keeps : KeepsSigmas front (trim cs) back := fun left right _ => by
    rw [endsWord, endsWord, List.reverse_append, beginsCased_append_blanks _ after,
      beginsCased_append_blanks _ fun c mem => before c (List.mem_reverse.mp mem)]
  have part := lowerCase_isInfix keeps
  rwa [← split] at part

end LetterCase

end FilterChips

/-
FilterChips.Proofs.Text.Width — the width of a text and the widths of its
characters.

A text is measured as a whole, and as a rule it is no wider than its
characters are on their own: where they form pairs, they take less. There
are two exceptions. A control takes a column in a text and none alone; and
a selector, which takes none, asks for a wide form of the character before
it. So a text is wider than its characters by a column at most for each of
these (`textWidth_le`).

The measure runs from the end of a text to its beginning. A selector comes
up before the character that it makes wide, and of the letters of flags
before a joined emoji every second one takes a column back that the next
one adds again. `Behind.owed` counts the columns that may still be added
on account of what stands behind, and no character adds more than its own
columns and what is owed (`before_le`).
-/
import FilterChips.Proofs.Text.CodeRanges
import FilterChips.Text.Width

namespace FilterChips

/-! ## §1 Characters that take a column -/

namespace Width

open ClusterTables WidthTables

/-- The characters that may take no column on their own, in sets. -/
def silentRanges : List CodeRanges :=
  [[(0x0, 0x1f), (0x7f, 0x9f)], ignorableRanges, extendRanges, looseMarkRanges, prependRanges,
    [(0x1160, 0x11ff), (0xd7b0, 0xd7c6), (0xd7cb, 0xd7fb)], [(0xa8fa, 0xa8fa)]]

theorem isSilent_of_columns_eq_zero {c : Char} (h : columns c = 0) :
    isControl c = true ∨ isSilent c = true := by
  simp only [columns, ofVisible] at h
  by_cases control : isControl c = true
  · exact .inl control
  · rw [if_neg control] at h
    split at h
    · cases h
    · split at h
      · cases h
      · split at h
        · cases h
        · split at h
          · exact .inr ‹_›
          · split at h <;> cases h

theorem exists_silentRanges {c : Char} (h : columns c = 0) :
    ∃ ranges ∈ silentRanges, ranges.contains c = true := by
  rcases isSilent_of_columns_eq_zero h with control | silent
  · refine ⟨[(0x0, 0x1f), (0x7f, 0x9f)], by simp [silentRanges], ?_⟩
    simp only [isControl, Bool.or_eq_true, Bool.and_eq_true, decide_eq_true_eq] at control
    simp [CodeRanges.contains, CodeRanges.holds]
    omega
  · simp only [isSilent, Bool.and_eq_true, Bool.or_eq_true] at silent
    obtain ⟨-, ((((ignorable | extend) | loose) | hangul) | leading) | single⟩ := silent
    · exact ⟨ignorableRanges, by simp [silentRanges], ignorable⟩
    · exact ⟨extendRanges, by simp [silentRanges], extend⟩
    · exact ⟨looseMarkRanges, by simp [silentRanges], loose⟩
    · refine ⟨[(0x1160, 0x11ff), (0xd7b0, 0xd7c6), (0xd7cb, 0xd7fb)], by simp [silentRanges], ?_⟩
      simp only [isHangulRest, Bool.or_eq_true, Bool.and_eq_true, decide_eq_true_eq] at hangul
      simp [CodeRanges.contains, CodeRanges.holds]
      omega
    · simp only [isLeadingMark, Bool.and_eq_true] at leading
      exact ⟨prependRanges, by simp [silentRanges], leading.1⟩
    · obtain rfl := of_decide_eq_true single
      exact ⟨[(0xa8fa, 0xa8fa)], by simp [silentRanges], by decide⟩

/-- Single characters that take a column: the blank that does not break,
the quotation marks, a vowel sign, and the letters of flags. -/
def spacedRanges : CodeRanges :=
  [(0xa0, 0xa0), (0x2018, 0x2019), (0x201c, 0x201d), (0x16d68, 0x16d68), (0x1f1e6, 0x1f1ff)]

/-- The sets of characters that a step counts on to take a column. -/
def countedRanges : List CodeRanges :=
  [emojiVariantRanges, textVariantRanges, spacedRanges]

theorem countedRanges_apart : ∀ counted ∈ countedRanges,
    (counted.map Prod.fst).IsChain (· ≤ ·) ∧
      ∀ silent ∈ silentRanges, counted.apart silent = true := by
  decide +kernel

theorem one_le_columns_of_counted {counted : CodeRanges} (mem : counted ∈ countedRanges) {c : Char}
    (h : counted.contains c = true) : 1 ≤ columns c := by
  refine Nat.pos_of_ne_zero fun none => ?_
  obtain ⟨silent, hsilent, found⟩ := exists_silentRanges none
  obtain ⟨ascending, apart⟩ := countedRanges_apart counted mem
  rw [CodeRanges.contains_eq_false_of_apart ascending (apart silent hsilent) h] at found
  cases found

theorem one_le_columns_of_emojiVariant {c : Char} (h : emojiVariantRanges.contains c = true) :
    1 ≤ columns c :=
  one_le_columns_of_counted (by simp [countedRanges]) h

theorem one_le_columns_of_textVariant {c : Char} (h : textVariantRanges.contains c = true) :
    1 ≤ columns c :=
  one_le_columns_of_counted (by simp [countedRanges]) h

theorem one_le_columns_of_spaced {c : Char} (h : spacedRanges.contains c = true) : 1 ≤ columns c :=
  one_le_columns_of_counted (by simp [countedRanges]) h

theorem one_le_columns_of_isRegional {c : Char} (h : isRegional c = true) : 1 ≤ columns c := by
  refine one_le_columns_of_spaced ?_
  simp only [isRegional, Bool.and_eq_true, decide_eq_true_eq] at h
  simp [spacedRanges, CodeRanges.contains, CodeRanges.holds]
  omega

theorem one_le_columns_of_isQuotationMark {c : Char} (h : isQuotationMark c = true) :
    1 ≤ columns c := by
  simp only [isQuotationMark, Bool.or_eq_true, decide_eq_true_eq] at h
  rcases h with ((rfl | rfl) | rfl) | rfl <;> exact one_le_columns_of_spaced (by decide)

/-! ## §2 One character more -/

/-- Whether a character may make a text wider than its characters are: a
control, or a selector of a wide form. -/
def widens (c : Char) : Bool :=
  isControl c || c = '\ufe0f' || c = '\ufe01'

/-- The columns that letters of flags have taken back and may add again. -/
def Follower.owed : Follower → Nat
  | .joinedRegional .even => 2
  | _ => 0

/-- The columns that a character may add beside its own. -/
def Behind.owed (behind : Behind) : Nat :=
  behind.follower.owed + behind.selectors.emoji.toNat + behind.selectors.quote.toNat

section Pairs

variable {c : Char} {width : Int} {follower : Follower}

theorem beforeName?_le {letters digits : Nat}
    (h : beforeName? c letters digits = some (width, follower)) :
    width ≤ columns c ∧ follower.owed = 0 := by
  grind [beforeName?, Follower.owed]

theorem beforeVowelSign?_le {double : Bool}
    (h : beforeVowelSign? c double = some (width, follower)) :
    width ≤ columns c ∧ follower.owed = 0 := by
  have stroke (two : c.toNat = 0x16d68) : 1 ≤ columns c :=
    one_le_columns_of_spaced (by rw [CodeRanges.contains, two]; decide)
  grind [beforeVowelSign?, Follower.owed]

theorem beforeLetter?_le {d : Char} {joined : Bool}
    (h : beforeLetter? c d joined = some (width, follower)) :
    width ≤ columns c ∧ follower.owed = 0 := by
  have stroke : 1 ≤ columns '\u2d7f' := by decide
  revert h
  fun_cases beforeLetter? c d joined <;> intro h <;> grind [Follower.owed]

theorem beforeJoinedEmoji?_le (h : beforeJoinedEmoji? c = some (width, follower)) :
    width ≤ columns c ∧ follower.owed = 0 := by
  have regional := one_le_columns_of_isRegional (c := c)
  grind [beforeJoinedEmoji?, Follower.owed]

/-- By the rules for pairs. The letters of flags before a joined emoji are
why something may be owed: an even number of them has the columns of all
but two, which the next letter adds. -/
theorem joined?_le {next : Follower} (h : joined? c next = some (width, follower)) :
    width + follower.owed ≤ columns c + next.owed := by
  have regional := one_le_columns_of_isRegional (c := c)
  cases next with
  | plain | lineFeed | joinedKeycap => simp [joined?] at h
  | alef | emojiModifier | emoji | regional => grind [joined?, Follower.owed]
  | letter d joined =>
    have := beforeLetter?_le h
    omega
  | vowelSign double =>
    have := beforeVowelSign?_le h
    omega
  | joinedEmoji =>
    have := beforeJoinedEmoji?_le h
    omega
  | joinedName letters digits =>
    have := beforeName?_le h
    omega
  | joinedRegional count =>
    cases count <;> grind [joined?, beforeJoinedRegional, Follower.owed]

end Pairs

theorem owed_of (c : Char) : (Follower.of c).owed = 0 := by
  fun_cases Follower.of c <;> rfl

theorem Behind.owed_alone (follower : Follower) : follower.alone.owed = follower.owed := rfl

theorem Behind.owed_nothing : nothing.owed = 0 := rfl

theorem beforeFollower_le {c : Char} (visible : isControl c = false) (next : Follower) :
    (beforeFollower c next).1 + (beforeFollower c next).2.owed ≤ columns c + next.owed := by
  unfold beforeFollower
  split
  · rename_i width follower h
    exact joined?_le h
  · have alone : columns c = ofVisible c := by simp [columns, visible]
    rw [alone, Behind.owed_alone, owed_of]
    omega

/-! A selector owes at most the column that it asks for. -/

theorem Behind.owed_selectEmoji (behind : Behind) : behind.selectEmoji.owed ≤ behind.owed + 1 := by
  have most : behind.owed + 1 ≥ behind.follower.owed + 1 + behind.selectors.quote.toNat := by
    simp only [owed]
    omega
  simp only [selectEmoji]
  split
  · exact most
  · exact Nat.le_add_left ..

theorem Behind.owed_selectText (behind : Behind) : behind.selectText.owed ≤ behind.owed := by
  simp only [selectText, owed]
  split <;> simp [nothing, Follower.alone, Follower.owed]

theorem Behind.owed_selectQuote (behind : Behind) : behind.selectQuote.owed ≤ behind.owed + 1 := by
  simp only [selectQuote, owed]
  split <;> simp [nothing, Follower.alone, Follower.owed]

theorem Behind.owed_dropEmoji (behind : Behind) : behind.dropEmoji.owed ≤ behind.owed := by
  simp only [dropEmoji]
  split <;> simp [owed, nothing, Follower.alone, Follower.owed]

/-- Up to the blank that does not break, a character takes a column or is
a control. -/
theorem one_le_of_toNat_le {c : Char} (low : c.toNat ≤ 0xa0) :
    1 ≤ columns c + (widens c).toNat := by
  by_cases control : isControl c = true
  · simp [widens, control]
  · rcases Nat.lt_or_eq_of_le low with below | blank
    · simp [columns, control, ofVisible, below]
    · have one : 1 ≤ columns c :=
        one_le_columns_of_spaced (by rw [CodeRanges.contains, blank]; decide)
      omega

theorem beforeText_le (c : Char) (behind : Behind) :
    (beforeText c behind).1 + (beforeText c behind).2.owed ≤
      columns c + (widens c).toNat + behind.owed := by
  fun_cases beforeText c behind with
  | case1 lineFeed =>
    have := one_le_of_toNat_le (c := c) (by rw [lineFeed]; decide)
    simp only [Behind.owed_alone, Follower.owed]
    omega
  | case2 =>
    simp only [Behind.owed_nothing]
    omega
  | case3 _ _ low =>
    have := one_le_of_toNat_le low
    simp only [Behind.owed_nothing]
    omega
  | case4 _ _ _ selector =>
    have widening : (widens c).toNat = 1 := by simp [widens, selector]
    have := behind.owed_selectEmoji
    dsimp only
    omega
  | case5 =>
    have := behind.owed_selectText
    dsimp only
    omega
  | case6 _ _ _ _ _ selector =>
    have widening : (widens c).toNat = 1 := by simp [widens, selector]
    have := behind.owed_selectQuote
    dsimp only
    omega
  | case7 _ _ _ _ _ _ narrow =>
    have := one_le_columns_of_textVariant (Bool.and_eq_true_iff.mp narrow).2
    simp only [Behind.owed_nothing]
    omega
  | case8 _ _ _ _ _ _ _ wide =>
    obtain ⟨asked, mark⟩ := Bool.and_eq_true_iff.mp wide
    have := one_le_columns_of_isQuotationMark mark
    have one : 1 ≤ behind.owed := by
      simp only [Behind.owed, asked, Bool.toNat_true]
      omega
    simp only [Behind.owed_nothing]
    omega
  | case9 _ _ high =>
    have visible : isControl c = false := by
      simp only [isControl, Bool.or_eq_false_iff, decide_eq_false_iff_not, Bool.and_eq_false_iff]
      omega
    have := beforeFollower_le visible behind.follower
    have : behind.follower.owed ≤ behind.owed := by
      simp only [Behind.owed]
      omega
    omega

theorem before_le (c : Char) (behind : Behind) :
    (before c behind).1 + (before c behind).2.owed ≤
      columns c + (widens c).toNat + behind.owed := by
  unfold before
  split
  · rename_i asked
    split
    · rename_i emoji
      have := one_le_columns_of_emojiVariant emoji
      have one : 1 ≤ behind.owed := by
        simp only [Behind.owed, asked, Bool.toNat_true]
        omega
      rw [Behind.owed_alone]
      split <;> simp only [Follower.owed] <;> omega
    · have dropped := beforeText_le c behind.dropEmoji
      have := behind.owed_dropEmoji
      omega
  · exact beforeText_le c behind

/-! ## §3 The width of a text -/

/-- The columns of the characters of a text, each on its own. -/
def columnsOf : List Char → Nat
  | [] => 0
  | c :: cs => columns c + columnsOf cs

theorem columnsOf_append (cs ds : List Char) :
    columnsOf (cs ++ ds) = columnsOf cs + columnsOf ds := by
  induction cs with
  | nil => exact (Nat.zero_add _).symm
  | cons c cs ih => rw [List.cons_append, columnsOf, columnsOf, ih, Nat.add_assoc]

theorem ofText_le (cs : List Char) :
    (ofText cs).1 + (ofText cs).2.owed ≤ columnsOf cs + cs.countP widens := by
  induction cs with
  | nil => exact Int.le_refl 0
  | cons c cs ih =>
    have step := before_le c (ofText cs).2
    have text : ofText (c :: cs) =
        ((ofText cs).1 + (before c (ofText cs).2).1, (before c (ofText cs).2).2) := rfl
    rw [text, List.countP_cons, columnsOf]
    cases h : widens c <;> simp only [h] at step ⊢ <;> simp at step ⊢ <;> omega

end Width

/-- A text is wider than its characters by no more than a column for each
character that widens it. -/
theorem textWidth_le (cs : List Char) :
    textWidth cs ≤ Width.columnsOf cs + cs.countP Width.widens := by
  have := Width.ofText_le cs
  rw [textWidth]
  omega

end FilterChips

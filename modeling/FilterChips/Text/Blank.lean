/-
FilterChips.Text.Blank — blank characters and their removal at both ends of a text.

A character is blank when Unicode gives it the property White_Space. `trim` drops blanks at both ends
and `trim_isInfix` says that it drops nothing else: what is left is a part of the text.
-/
namespace FilterChips

/-- The characters with the Unicode property White_Space. -/
def isBlank (c : Char) : Bool :=
  let n := c.toNat
  (9 ≤ n && n ≤ 13) || n = 0x20 || n = 0x85 || n = 0xa0 || n = 0x1680 ||
    (0x2000 ≤ n && n ≤ 0x200a) || n = 0x2028 || n = 0x2029 || n = 0x202f || n = 0x205f ||
    n = 0x3000

/-- Every white space character of ASCII is blank. -/
theorem isBlank_of_isWhitespace {c : Char} (h : c.isWhitespace = true) : isBlank c = true := by
  simp only [Char.isWhitespace, Bool.or_eq_true, decide_eq_true_eq] at h
  rcases h with ((h | h) | h) | h <;> subst h <;> decide

/-- A text without the blanks at its two ends. -/
def trim (cs : List Char) : List Char :=
  ((cs.dropWhile isBlank).reverse.dropWhile isBlank).reverse

/-- What is left is one contiguous part of the text. -/
theorem trim_isInfix (cs : List Char) : trim cs <:+: cs := by
  have h1 : (cs.dropWhile isBlank) <:+ cs := List.dropWhile_suffix _
  have h2 : trim cs <+: cs.dropWhile isBlank := by
    have := (List.dropWhile_suffix isBlank (l := (cs.dropWhile isBlank).reverse))
    simpa [trim] using List.reverse_prefix.2 this
  exact h2.isInfix.trans h1.isInfix

end FilterChips

/-
FilterChips.Expression.Token — cutting the text of an expression into tokens.

A parenthesis is a token of its own, blanks separate, and every longest run of other characters is a
word.
-/
import FilterChips.Text.Blank

namespace FilterChips

namespace Expression

/-- A parenthesis, which is a token wherever it stands. -/
def isParenthesis (c : Char) : Bool :=
  c = '(' || c = ')'

/-- A character of a word: neither blank nor a parenthesis. -/
def isWordChar (c : Char) : Bool :=
  !isBlank c && !isParenthesis c

/-- The word read so far as a token, unless it is empty. -/
def wordToken : List Char → List (List Char)
  | [] => []
  | word => [word]

/-- The tokens of a text that follows the characters `word` of a word already begun. -/
def tokensAfter (word : List Char) : List Char → List (List Char)
  | [] => wordToken word
  | c :: cs =>
    if isWordChar c then tokensAfter (word ++ [c]) cs
    else if isBlank c then wordToken word ++ tokensAfter [] cs
    else wordToken word ++ [c] :: tokensAfter [] cs

/-- The tokens of a text, as labels. -/
def tokenize (text : String) : List String :=
  (tokensAfter [] text.toList).map String.ofList

/-! The five forms a text may begin with. -/

@[simp] theorem tokensAfter_nil (word : List Char) : tokensAfter word [] = wordToken word := rfl

theorem tokensAfter_wordChar {c : Char} (h : isWordChar c = true) (word cs : List Char) :
    tokensAfter word (c :: cs) = tokensAfter (word ++ [c]) cs := by
  simp [tokensAfter, h]

theorem tokensAfter_blank {c : Char} (h : isBlank c = true) (word cs : List Char) :
    tokensAfter word (c :: cs) = wordToken word ++ tokensAfter [] cs := by
  simp [tokensAfter, isWordChar, h]

theorem isBlank_of_isParenthesis {c : Char} (h : isParenthesis c = true) : isBlank c = false := by
  simp only [isParenthesis, Bool.or_eq_true, decide_eq_true_eq] at h
  rcases h with h | h <;> subst h <;> decide

theorem tokensAfter_parenthesis {c : Char} (h : isParenthesis c = true) (word cs : List Char) :
    tokensAfter word (c :: cs) = wordToken word ++ [c] :: tokensAfter [] cs := by
  simp [tokensAfter, isWordChar, h, isBlank_of_isParenthesis h]

end Expression

end FilterChips

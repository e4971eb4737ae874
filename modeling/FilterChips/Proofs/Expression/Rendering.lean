/-
FilterChips.Proofs.Expression.Rendering — texts that write a list of
tokens, and what the tokenizer makes of them.

`Renders tokens text` says that `text` is the tokens one after the other,
with any blanks before, between and after them. One thing it asks for: two
words in a row have a blank between them, or else they would be one word.
Next to a parenthesis no blank is needed. So a list of tokens has many
texts, and `tokenize_of_renders` says that the tokenizer takes each of
them back to the list.

The tokenizer carries the word it has begun to read. A token of the list
is complete where that word cannot go on (`tokensAfter_of_boundary`), and
behind a word of a rendered list this is always so (`Renders.boundary`).

The other way round, every text writes something: the tokens that the
tokenizer finds in it (`renders_tokensAfter`). What is carried through the
text is that the word begun and the rest are together a text of what comes
out. So a text and its tokens determine each other but for the blanks
(`tokenize_eq_iff_renders`).
-/
import FilterChips.Expression.Token

namespace FilterChips

namespace Expression

/-! ## §1 Tokens and gaps -/

/-- A word: some characters, neither blanks nor parentheses. -/
def IsWord (token : String) : Prop :=
  token.toList ≠ [] ∧ ∀ c ∈ token.toList, isWordChar c = true

instance (token : String) : Decidable (IsWord token) :=
  decidable_of_iff (token.toList ≠ [] ∧ token.toList.all isWordChar = true)
    (and_congr_right fun _ => List.all_eq_true)

/-- What stands on its own in a text: a parenthesis or a word. -/
def IsToken (token : String) : Prop :=
  (∃ c, isParenthesis c = true ∧ token.toList = [c]) ∨ IsWord token

/-- Blanks and nothing else. -/
def IsGap (gap : List Char) : Prop :=
  ∀ c ∈ gap, isBlank c = true

instance (gap : List Char) : Decidable (IsGap gap) :=
  decidable_of_iff (gap.all isBlank = true) List.all_eq_true

/-- A text is some tokens one after the other, with blanks around them; at
least one blank where both neighbours are words. -/
inductive Renders : List String → List Char → Prop where
  | done {gap : List Char} : IsGap gap → Renders [] gap
  | token {gap : List Char} {token : String} {tokens : List String} {rest : List Char} :
      IsGap gap → Renders tokens rest →
      (IsWord token → ∀ next ∈ tokens.head?, IsWord next → ∃ c ∈ rest.head?, isBlank c = true) →
      Renders (token :: tokens) (gap ++ token.toList ++ rest)

theorem isWordChar_of_isBlank {c : Char} (h : isBlank c = true) : isWordChar c = false := by
  simp [isWordChar, h]

theorem isWordChar_of_isParenthesis {c : Char} (h : isParenthesis c = true) :
    isWordChar c = false := by
  simp [isWordChar, h]

/-! ## §2 Reading a word, a gap and what comes behind -/

/-- Blanks before a token are passed over. -/
theorem tokensAfter_gap {gap : List Char} (h : IsGap gap) (rest : List Char) :
    tokensAfter [] (gap ++ rest) = tokensAfter [] rest := by
  induction gap with
  | nil => rfl
  | cons c gap ih =>
    have tail : IsGap gap := fun d hd => h d (List.mem_cons_of_mem c hd)
    rw [List.cons_append, tokensAfter_blank (h c List.mem_cons_self), ih tail]
    rfl

/-- The characters of a word are added to the word already begun. -/
theorem tokensAfter_wordChars {chars : List Char} (h : ∀ c ∈ chars, isWordChar c = true)
    (word rest : List Char) :
    tokensAfter word (chars ++ rest) = tokensAfter (word ++ chars) rest := by
  induction chars generalizing word with
  | nil => simp
  | cons c chars ih =>
    have tail : ∀ d ∈ chars, isWordChar d = true := fun d hd => h d (List.mem_cons_of_mem c hd)
    rw [List.cons_append, tokensAfter_wordChar (h c List.mem_cons_self), ih tail,
      List.append_assoc]
    rfl

/-- A word that cannot go on is a token, and the rest is read afresh. -/
theorem tokensAfter_of_boundary {rest : List Char}
    (h : ∀ c ∈ rest.head?, isWordChar c = false) (word : List Char) :
    tokensAfter word rest = wordToken word ++ tokensAfter [] rest := by
  cases rest with
  | nil => simp [wordToken]
  | cons c rest =>
    have stops : isWordChar c = false := h c rfl
    cases blank : isBlank c with
    | true => rw [tokensAfter_blank blank, tokensAfter_blank blank]; rfl
    | false =>
      have parenthesis : isParenthesis c = true := by simpa [isWordChar, blank] using stops
      rw [tokensAfter_parenthesis parenthesis, tokensAfter_parenthesis parenthesis]
      rfl

/-! ## §3 Rendered lists -/

/-- Behind a word of a rendered list, no character could belong to it. -/
theorem Renders.boundary {tokens : List String} {rest : List Char} (h : Renders tokens rest)
    (shaped : ∀ t ∈ tokens, IsToken t)
    (apart : ∀ next ∈ tokens.head?, IsWord next → ∃ c ∈ rest.head?, isBlank c = true) :
    ∀ c ∈ rest.head?, isWordChar c = false := by
  intro c hc
  cases h with
  | done blank => exact isWordChar_of_isBlank (blank c (List.mem_of_mem_head? hc))
  | @token gap next tokens rest blank _ _ =>
    rcases shaped next List.mem_cons_self with ⟨p, hp, hnext⟩ | word
    · cases gap with
      | nil =>
        rw [hnext] at hc
        obtain rfl : p = c := by simpa using hc
        exact isWordChar_of_isParenthesis hp
      | cons d gap =>
        obtain rfl : d = c := by simpa using hc
        exact isWordChar_of_isBlank (blank d List.mem_cons_self)
    · obtain ⟨d, hd, hblank⟩ := apart next rfl word
      obtain rfl : d = c := Option.some.inj (hd.symm.trans hc)
      exact isWordChar_of_isBlank hblank

theorem tokensAfter_of_renders {tokens : List String} {text : List Char}
    (h : Renders tokens text) (shaped : ∀ t ∈ tokens, IsToken t) :
    tokensAfter [] text = tokens.map String.toList := by
  induction h with
  | @done gap blank => simpa [wordToken] using tokensAfter_gap blank []
  | @token gap token tokens rest blank renders apart ih =>
    have tail : ∀ t ∈ tokens, IsToken t := fun t ht => shaped t (List.mem_cons_of_mem token ht)
    rw [List.append_assoc, tokensAfter_gap blank, List.map_cons, ← ih tail]
    rcases shaped token List.mem_cons_self with ⟨p, hp, heq⟩ | word
    · rw [heq, List.singleton_append, tokensAfter_parenthesis hp]
      rfl
    · rw [tokensAfter_wordChars word.2, List.nil_append,
        tokensAfter_of_boundary (renders.boundary tail (apart word))]
      simp [wordToken, word.1]

/-- The tokenizer finds the tokens of every text that writes them. -/
theorem tokenize_of_renders {tokens : List String} {text : String}
    (h : Renders tokens text.toList) (shaped : ∀ t ∈ tokens, IsToken t) :
    tokenize text = tokens := by
  rw [tokenize, tokensAfter_of_renders h shaped, List.map_map]
  simp [Function.comp_def]

/-! ## §4 Every text is a rendering -/

/-- A token may stand in front without a gap. -/
theorem Renders.cons (token : String) {tokens : List String} {rest : List Char}
    (h : Renders tokens rest)
    (apart : IsWord token → ∀ next ∈ tokens.head?, IsWord next →
      ∃ c ∈ rest.head?, isBlank c = true) :
    Renders (token :: tokens) (token.toList ++ rest) :=
  .token (fun _ hc => absurd hc List.not_mem_nil) h apart

theorem renders_nil : Renders [] [] :=
  .done fun _ hc => absurd hc List.not_mem_nil

/-- A blank in front changes nothing. -/
theorem Renders.cons_blank {c : Char} (hc : isBlank c = true) {tokens : List String}
    {text : List Char} (h : Renders tokens text) : Renders tokens (c :: text) := by
  cases h with
  | done blank => exact .done (List.forall_mem_cons.mpr ⟨hc, blank⟩)
  | token blank renders apart =>
    exact .token (List.forall_mem_cons.mpr ⟨hc, blank⟩) renders apart

/-- A word in front, if there is one, is one token more. The text behind it
must not go on with a word. -/
theorem Renders.append_word {word : List Char} (hw : ∀ c ∈ word, isWordChar c = true)
    {tokens : List String} {rest : List Char} (h : Renders tokens rest)
    (apart : ∀ next ∈ tokens.head?, IsWord next → ∃ c ∈ rest.head?, isBlank c = true) :
    Renders ((wordToken word).map String.ofList ++ tokens) (word ++ rest) := by
  cases word with
  | nil => exact h
  | cons c word =>
    simpa [wordToken] using h.cons (String.ofList (c :: word)) fun _ => apart

theorem isToken_of_mem_wordToken {word : List Char} (hw : ∀ c ∈ word, isWordChar c = true) :
    ∀ t ∈ (wordToken word).map String.ofList, IsToken t := by
  cases word with
  | nil => simp [wordToken]
  | cons c word =>
    intro t ht
    obtain rfl : t = String.ofList (c :: word) := by simpa [wordToken] using ht
    exact .inr (by simpa [IsWord] using hw)

/-- The word begun and the text behind it write the tokens found, and these
are tokens. -/
theorem renders_tokensAfter {word : List Char} (hw : ∀ c ∈ word, isWordChar c = true)
    (text : List Char) :
    Renders ((tokensAfter word text).map String.ofList) (word ++ text) ∧
      ∀ t ∈ (tokensAfter word text).map String.ofList, IsToken t := by
  induction text generalizing word with
  | nil =>
    refine ⟨?_, isToken_of_mem_wordToken hw⟩
    simpa using renders_nil.append_word hw (by simp)
  | cons c text ih =>
    obtain ⟨renders, shaped⟩ := @ih [] (by simp)
    cases wordChar : isWordChar c with
    | true =>
      rw [tokensAfter_wordChar wordChar, List.append_cons word c text]
      exact ih (List.forall_mem_append.mpr ⟨hw, List.forall_mem_singleton.mpr wordChar⟩)
    | false =>
      cases blank : isBlank c with
      | true =>
        rw [tokensAfter_blank blank, List.map_append]
        refine ⟨(renders.cons_blank blank).append_word hw fun _ _ _ => ⟨c, rfl, blank⟩, ?_⟩
        exact List.forall_mem_append.mpr ⟨isToken_of_mem_wordToken hw, shaped⟩
      | false =>
        have parenthesis : isParenthesis c = true := by simpa [isWordChar, blank] using wordChar
        have noWord : ¬ IsWord (String.ofList [c]) := by simp [IsWord, wordChar]
        have next : Renders (String.ofList [c] :: (tokensAfter [] text).map String.ofList)
            (c :: text) := by
          simpa using renders.cons (String.ofList [c]) fun isWord => absurd isWord noWord
        rw [tokensAfter_parenthesis parenthesis, List.map_append, List.map_cons]
        refine ⟨next.append_word hw ?_, ?_⟩
        · rintro next ⟨⟩ isWord
          exact absurd isWord noWord
        · refine List.forall_mem_append.mpr ⟨isToken_of_mem_wordToken hw, ?_⟩
          exact List.forall_mem_cons.mpr ⟨.inl ⟨c, parenthesis, String.toList_ofList⟩, shaped⟩

theorem renders_tokenize (text : String) :
    Renders (tokenize text) text.toList ∧ ∀ t ∈ tokenize text, IsToken t := by
  simpa [tokenize] using @renders_tokensAfter [] (by simp) text.toList

/-! ## §5 Texts and tokens -/

theorem IsToken.isBlank_eq_false {token : String} (h : IsToken token) :
    ∀ c ∈ token.toList, isBlank c = false := by
  intro c hc
  rcases h with ⟨p, hp, htoken⟩ | word
  · rw [htoken, List.mem_singleton] at hc
    rw [hc]
    exact isBlank_of_isParenthesis hp
  · have wordChar := word.2 c hc
    simp only [isWordChar, Bool.and_eq_true, Bool.not_eq_true'] at wordChar
    exact wordChar.1

theorem IsGap.filter_eq_nil {gap : List Char} (h : IsGap gap) :
    gap.filter (fun c => !isBlank c) = [] :=
  List.filter_eq_nil_iff.mpr fun c hc => by simp [h c hc]

/-- One after the other, the tokens are the text without its blanks. -/
theorem Renders.flatMap_toList {tokens : List String} {text : List Char} (h : Renders tokens text)
    (shaped : ∀ t ∈ tokens, IsToken t) :
    tokens.flatMap String.toList = text.filter fun c => !isBlank c := by
  induction h with
  | done blank => rw [blank.filter_eq_nil, List.flatMap_nil]
  | @token gap token tokens rest blank _ _ ih =>
    obtain ⟨first, others⟩ := List.forall_mem_cons.mp shaped
    have kept : token.toList.filter (fun c => !isBlank c) = token.toList :=
      List.filter_eq_self.mpr fun c hc => by simp [first.isBlank_eq_false c hc]
    rw [List.filter_append, List.filter_append, blank.filter_eq_nil, kept, List.flatMap_cons,
      ih others, List.nil_append]

/-- Tokens with a space between two of them are written by that text. -/
theorem renders_intercalate (tokens : List String) :
    Renders tokens (" ".intercalate tokens).toList := by
  rw [String.toList_intercalate]
  induction tokens with
  | nil => exact renders_nil
  | cons token tokens ih =>
    cases tokens with
    | nil => simpa using renders_nil.cons token (by simp)
    | cons next tokens =>
      have space : isBlank ' ' = true := by decide
      have spaced := (ih.cons_blank space).cons token fun _ _ _ _ => ⟨' ', rfl, space⟩
      simpa [List.intercalate_cons_cons] using spaced

/-- **Reading inverts writing**: the tokenizer finds some tokens in a text
just when they are tokens and the text writes them. So the tokens of a
text, put together, are the text without its blanks; and strings with a
space between two of them are read back just when each is a token. -/
theorem tokenize_eq_iff_renders (text : String) (tokens : List String) :
    (tokenize text = tokens ↔ (∀ t ∈ tokens, IsToken t) ∧ Renders tokens text.toList) ∧
      String.join (tokenize text) = String.ofList (text.toList.filter fun c => !isBlank c) ∧
      (tokenize (" ".intercalate tokens) = tokens ↔ ∀ t ∈ tokens, IsToken t) := by
  obtain ⟨renders, shaped⟩ := renders_tokenize text
  refine ⟨⟨?_, fun h => tokenize_of_renders h.2 h.1⟩, ?_, ?_, ?_⟩
  · rintro rfl
    exact ⟨shaped, renders⟩
  · rw [← renders.flatMap_toList shaped, ← String.toList_join, String.ofList_toList]
  · intro read
    rw [← read]
    exact (renders_tokenize _).2
  · exact tokenize_of_renders (renders_intercalate tokens)

end Expression

end FilterChips

/-
FilterChips.Proofs.Expression.Formula — a formula, printed and spaced in
any way, is read back and passes the validator, unless it is a name alone.

Formulas print without parentheses of their own, so `a AND b OR c` is the
text of two trees; the validator looks at the surface only and does not
mind. Validity itself is not kept from the parts of a formula to the
whole, since a name alone is refused. What is kept is weaker at one end
and stronger at the other: the tokens of a formula are balanced for any
number of open parentheses (`balanceRuleAt_classes`), begin with what may
follow an operator (`operator_mayPrecede_classes`), and pass the adjacency
rule before anything that may follow a name (`adjacencyRule_classes`).
-/
import FilterChips.Proofs.Expression.Rendering
import FilterChips.Proofs.Expression.Rules

namespace FilterChips

namespace Expression

/-! ## §1 Formulas and their tokens -/

/-- What an identifier can be called: a word that writes no operator. -/
structure Name where
  label : String
  isWord : IsWord label
  ne_and : label ≠ Condition.and.label
  ne_or : label ≠ Condition.or.label

/-- What joins two formulas. -/
inductive Connective where
  | and
  | or
  deriving DecidableEq, Repr

/-- The condition that a connective is written with. -/
def Connective.condition : Connective → Condition
  | .and => .and
  | .or => .or

/-- A formula; parentheses are part of it. -/
inductive Formula where
  | name (n : Name)
  | group (f : Formula)
  | join (c : Connective) (f g : Formula)

namespace Formula

/-- The tokens that print a formula. -/
def tokens : Formula → List String
  | .name n => [n.label]
  | .group f => Condition.opening.label :: (f.tokens ++ [Condition.closing.label])
  | .join c f g => f.tokens ++ c.condition.label :: g.tokens

/-- The classes of these tokens. -/
def classes (f : Formula) : List TokenClass :=
  f.tokens.map TokenClass.ofLabel

end Formula

theorem isToken_condition (c : Condition) : IsToken c.label := by
  cases c with
  | and => exact Or.inr (by decide)
  | or => exact Or.inr (by decide)
  | opening => exact Or.inl ⟨'(', by decide, by decide⟩
  | closing => exact Or.inl ⟨')', by decide, by decide⟩

theorem Formula.isToken_of_mem {f : Formula} : ∀ t ∈ f.tokens, IsToken t := by
  induction f with
  | name n =>
    intro t ht
    obtain rfl := List.mem_singleton.mp ht
    exact Or.inr n.isWord
  | group f ih =>
    intro t ht
    simp only [Formula.tokens, List.mem_cons, List.mem_append, List.not_mem_nil, or_false] at ht
    rcases ht with rfl | ht | rfl
    · exact isToken_condition _
    · exact ih t ht
    · exact isToken_condition _
  | join c f g ihf ihg =>
    intro t ht
    simp only [Formula.tokens, List.mem_cons, List.mem_append] at ht
    rcases ht with ht | rfl | ht
    · exact ihf t ht
    · exact isToken_condition _
    · exact ihg t ht

/-- A name writes no condition: it is no operator, and a parenthesis is no word. -/
theorem Name.ofLabel_label (n : Name) : TokenClass.ofLabel n.label = .identifier := by
  rw [TokenClass.ofLabel_eq_identifier_iff, Option.eq_none_iff_forall_ne_some]
  intro c hc
  have same : c.label = n.label := Condition.label_of_ofLabel? hc
  have word := n.isWord.2
  rw [← same] at word
  cases c with
  | and => exact n.ne_and same.symm
  | or => exact n.ne_or same.symm
  | opening => exact absurd (word '(' (by decide)) (by decide)
  | closing => exact absurd (word ')' (by decide)) (by decide)

namespace Formula

@[simp] theorem classes_name (n : Name) : (Formula.name n).classes = [.identifier] := by
  simp [classes, tokens, n.ofLabel_label]

@[simp] theorem classes_group (f : Formula) :
    f.group.classes = .opening :: (f.classes ++ [.closing]) := by
  have opening : TokenClass.ofLabel Condition.opening.label = .opening := by decide
  have closing : TokenClass.ofLabel Condition.closing.label = .closing := by decide
  simp [classes, tokens, opening, closing]

@[simp] theorem classes_join (c : Connective) (f g : Formula) :
    (Formula.join c f g).classes = f.classes ++ .operator :: g.classes := by
  have operator : TokenClass.ofLabel c.condition.label = .operator := by
    cases c <;> decide
  simp [classes, tokens, operator]

/-! ## §2 The tokens of a formula under the rules -/

/-- The balance rule passes over a formula. -/
theorem balanceRuleAt_classes (f : Formula) (depth : Nat) (rest : List TokenClass) :
    balanceRuleAt depth (f.classes ++ rest) = balanceRuleAt depth rest := by
  induction f generalizing depth rest with
  | name n => simp [balanceRuleAt]
  | group f ih =>
    have inner := ih (depth + 1) (.closing :: rest)
    simpa [balanceRuleAt] using inner
  | join c f g ihf ihg => simp [ihf, balanceRuleAt, ihg]

/-- A formula begins with a name or a parenthesis, so it may follow an
operator. -/
theorem operator_mayPrecede_classes (f : Formula) (rest : List TokenClass) :
    TokenClass.operator.MayPrecede (f.classes ++ rest).head? := by
  induction f generalizing rest with
  | name n => exact Or.inl (by simp)
  | group f _ => exact Or.inr (by simp)
  | join c f g ihf _ => simpa using ihf (.operator :: (g.classes ++ rest))

/-- A formula passes the adjacency rule before what may follow a name: an
operator, a closing parenthesis or the end. -/
theorem adjacencyRule_classes (f : Formula) (rest : List TokenClass)
    (follows : TokenClass.identifier.MayPrecede rest.head?) (passes : adjacencyRule rest = none) :
    adjacencyRule (f.classes ++ rest) = none := by
  induction f generalizing rest with
  | name n =>
    rw [classes_name]
    exact (adjacencyRule_cons_eq_none_iff _ _).mpr ⟨follows, passes⟩
  | group f ih =>
    have closed : adjacencyRule (.closing :: rest) = none :=
      (adjacencyRule_cons_eq_none_iff _ _).mpr ⟨trivial, passes⟩
    have inner := ih (.closing :: rest) (Or.inr (Or.inr rfl)) closed
    rw [classes_group, List.cons_append, List.append_assoc]
    exact (adjacencyRule_cons_eq_none_iff _ _).mpr ⟨trivial, inner⟩
  | join c f g ihf ihg =>
    have joined : adjacencyRule (.operator :: (g.classes ++ rest)) = none :=
      (adjacencyRule_cons_eq_none_iff _ _).mpr
        ⟨operator_mayPrecede_classes g rest, ihg rest follows passes⟩
    rw [classes_join, List.append_assoc]
    exact ihf _ (Or.inr (Or.inl rfl)) joined

theorem classes_eq_identifier_iff (f : Formula) :
    f.classes = [.identifier] ↔ ∃ n, f = .name n := by
  constructor
  · intro h
    cases f with
    | name n => exact ⟨n, rfl⟩
    | group f => simp at h
    | join c f g =>
      have operator : TokenClass.operator ∈ (Formula.join c f g).classes := by simp
      simp [h] at operator
  · rintro ⟨n, rfl⟩
    exact classes_name n

/-! ## §3 Printed formulas -/

/-- A formula is valid unless it is a name alone. -/
theorem firstViolation_classes_eq_none_iff (f : Formula) :
    firstViolation f.classes = none ↔ ∀ n, f ≠ .name n := by
  have balanced : balanceRule f.classes = none := by
    simpa [balanceRule, balanceRuleAt] using balanceRuleAt_classes f 0 []
  have adjacent : adjacencyRule f.classes = none := by
    simpa using adjacencyRule_classes f [] (Or.inl rfl) rfl
  have leading : f.classes.head? ≠ some .operator := by
    have first := operator_mayPrecede_classes f []
    rw [List.append_nil] at first
    rcases first with first | first <;> simp [first]
  rw [firstViolation_eq_none_iff, Ne, classes_eq_identifier_iff, not_exists]
  exact ⟨fun h => h.1, fun h => ⟨h, leading, balanced, adjacent⟩⟩

/-- **Printed formulas pass**: the tokenizer finds the tokens of a formula
in every text that writes them, with any blanks between them that keep the
words apart; the validator accepts them unless the formula is a name
alone, and then it says so. -/
theorem check_of_renders (f : Formula) {text : String} (h : Renders f.tokens text.toList) :
    tokenize text = f.tokens ∧
      ((validate (tokenize text)).isValid = true ↔ ∀ n, f ≠ .name n) ∧
      (∀ n, f = .name n → (validate (tokenize text)).violation = some .singleIdentifier) := by
  have read : tokenize text = f.tokens := tokenize_of_renders h Formula.isToken_of_mem
  rw [read]
  refine ⟨rfl, ?_, ?_⟩
  · rw [isValid_validate_iff]
    exact firstViolation_classes_eq_none_iff f
  · rintro n rfl
    change firstViolation (Formula.name n).classes = _
    rw [classes_name]
    rfl

/-- Beside a parenthesis no blank is needed, and between words any will
do. -/
theorem check_of_renders_ideographic_space :
    let pizza : Formula := .name ⟨"pizza", by decide, by decide, by decide⟩
    let sushi : Formula := .name ⟨"sushi", by decide, by decide, by decide⟩
    let f : Formula := .join .and (.group pizza) sushi
    let text := " (pizza)AND\u3000sushi"
    Renders f.tokens text.toList ∧ tokenize text = f.tokens ∧
      (validate (tokenize text)).isValid = true := by
  intro pizza sushi f text
  have chars : text.toList = [' '] ++ "(".toList ++ ([] ++ "pizza".toList ++
      ([] ++ ")".toList ++ ([] ++ "AND".toList ++ (['\u3000'] ++ "sushi".toList ++ [])))) := by
    decide
  have parenthesis : ¬ IsWord "(" ∧ ¬ IsWord ")" := by decide
  have none : IsGap [] := by decide
  have space : IsGap [' '] := by decide
  have wide : IsGap ['\u3000'] := by decide
  have renders : Renders f.tokens text.toList := by
    rw [chars]
    refine .token space (.token none (.token none (.token none (.token wide (.done none)
      ?_) ?_) ?_) ?_) ?_
    · simp
    · exact fun _ _ _ _ => ⟨'\u3000', rfl, by decide⟩
    · exact fun word => absurd word parenthesis.2
    · rintro - next ⟨⟩ word
      exact absurd word parenthesis.2
    · exact fun word => absurd word parenthesis.1
  obtain ⟨read, valid, -⟩ := check_of_renders f renders
  exact ⟨renders, read, valid.mpr (by simp [f])⟩

end Formula

end Expression

end FilterChips

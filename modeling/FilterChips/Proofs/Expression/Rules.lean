/-
FilterChips.Proofs.Expression.Rules — when the rules of the validator let
a list of tokens pass.

Six rules are tried, but four decide validity (`firstViolation_eq_none_iff`):
a list that passes the adjacency rule has no two operators side by side
and none at its end, so the two rules about that only choose the message.
The adjacency rule in turn is a condition on each token and the one after
it (`adjacencyRule_cons_eq_none_iff`), with nothing carried along.
-/
import FilterChips.Expression.Verdict

namespace FilterChips

/-- What may come after a token of a class; `none` is the end of the list. -/
def TokenClass.MayPrecede : TokenClass → Option TokenClass → Prop
  | .identifier, next => next = none ∨ next = some .operator ∨ next = some .closing
  | .operator, next => next = some .identifier ∨ next = some .opening
  | .opening, _ => True
  | .closing, _ => True

namespace Expression

theorem singleIdentifierRule_eq_none_iff (classes : List TokenClass) :
    singleIdentifierRule classes = none ↔ classes ≠ [.identifier] := by
  unfold singleIdentifierRule
  split
  · simp
  · rename_i h
    simpa using h

theorem leadingOperatorRule_eq_none_iff (classes : List TokenClass) :
    leadingOperatorRule classes = none ↔ classes.head? ≠ some .operator := by
  cases classes with
  | nil => simp [leadingOperatorRule]
  | cons c rest => cases c <;> simp [leadingOperatorRule]

/-- The adjacency rule looks at each token and at the one after it. -/
theorem adjacencyRule_cons_eq_none_iff (c : TokenClass) (rest : List TokenClass) :
    adjacencyRule (c :: rest) = none ↔
      c.MayPrecede rest.head? ∧ adjacencyRule rest = none := by
  cases rest with
  | nil => cases c <;> simp [adjacencyRule, TokenClass.MayPrecede]
  | cons d rest => cases c <;> cases d <;> simp [adjacencyRule, TokenClass.MayPrecede]

theorem consecutiveOperatorsRule_of_adjacencyRule {classes : List TokenClass}
    (h : adjacencyRule classes = none) : consecutiveOperatorsRule classes = none := by
  induction classes with
  | nil => rfl
  | cons c rest ih =>
    obtain ⟨next, h⟩ := (adjacencyRule_cons_eq_none_iff c rest).mp h
    cases rest with
    | nil => cases c <;> rfl
    | cons d rest =>
      cases c <;> cases d <;>
        first
        | exact ih h
        | simp [TokenClass.MayPrecede] at next

theorem trailingOperatorRule_of_adjacencyRule {classes : List TokenClass}
    (h : adjacencyRule classes = none) : trailingOperatorRule classes = none := by
  induction classes with
  | nil => rfl
  | cons c rest ih =>
    obtain ⟨next, h⟩ := (adjacencyRule_cons_eq_none_iff c rest).mp h
    cases rest with
    | nil => cases c <;> simp [trailingOperatorRule, TokenClass.MayPrecede] at next ⊢
    | cons d rest => simpa [trailingOperatorRule] using ih h

/-- Four of the six rules decide whether a list passes. -/
theorem firstViolation_eq_none_iff (classes : List TokenClass) :
    firstViolation classes = none ↔
      classes ≠ [.identifier] ∧ classes.head? ≠ some .operator ∧
        balanceRule classes = none ∧ adjacencyRule classes = none := by
  rw [← singleIdentifierRule_eq_none_iff, ← leadingOperatorRule_eq_none_iff]
  simp only [firstViolation, rules, List.findSome?_eq_none_iff, List.mem_cons, List.not_mem_nil,
    or_false, forall_eq_or_imp, forall_eq]
  constructor
  · rintro ⟨single, -, -, leading, balance, adjacency⟩
    exact ⟨single, leading, balance, adjacency⟩
  · rintro ⟨single, leading, balance, adjacency⟩
    exact ⟨single, trailingOperatorRule_of_adjacencyRule adjacency,
      consecutiveOperatorsRule_of_adjacencyRule adjacency, leading, balance, adjacency⟩

theorem isValid_validate_iff (labels : List String) :
    (validate labels).isValid = true ↔
      firstViolation (labels.map TokenClass.ofLabel) = none := by
  simp [validate, Verdict.isValid]

end Expression

end FilterChips

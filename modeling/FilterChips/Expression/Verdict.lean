/-
FilterChips.Expression.Verdict — whether a list of tokens reads as a well-formed expression.

Six rules are tried in a fixed order and the first one that is broken gives the verdict. What stands
right after a parenthesis is free, so `( AND pizza )` passes.
-/
import FilterChips.Chip

namespace FilterChips

/-! ## 1. Violations and verdicts -/

/-- The ways in which a list of tokens can fail. -/
inductive Violation where
  | singleIdentifier
  | trailingOperator
  | consecutiveOperators
  | leadingOperator
  | unmatchedClose
  | unclosedParens
  | identifierFollowedBy
  | operatorFollowedBy
  | operatorAtEnd
  deriving DecidableEq, Repr

/-- The wording of a violation. -/
def Violation.message : Violation → String
  | .singleIdentifier =>
    "Single ID chips are not allowed. Add operators (AND/OR) or parentheses."
  | .trailingOperator => "Cannot end with an operator. Add another ID chip or close parentheses."
  | .consecutiveOperators => "Cannot have consecutive operators."
  | .leadingOperator => "Cannot start with an operator."
  | .unmatchedClose => "Unmatched closing parenthesis."
  | .unclosedParens => "Unclosed parentheses."
  | .identifierFollowedBy =>
    "ID chips must be followed by operators (AND/OR) or closing parentheses."
  | .operatorFollowedBy => "Operators must be followed by ID chips or opening parentheses."
  | .operatorAtEnd => "Cannot end with an operator."

/-- The outcome of a validation: the first broken rule, if any. -/
structure Verdict where
  violation : Option Violation
  deriving DecidableEq, Repr

namespace Verdict

/-- Nothing is broken. -/
def valid : Verdict := ⟨none⟩

/-- Whether no rule is broken. -/
def isValid (v : Verdict) : Bool := v.violation.isNone

/-- The wording of the broken rule; empty when there is none. -/
def message (v : Verdict) : String := (v.violation.map Violation.message).getD ""

end Verdict

/-! ## 2. The rules -/

namespace Expression

open TokenClass

/-- An identifier does not stand alone. -/
def singleIdentifierRule : List TokenClass → Option Violation
  | [.identifier] => some .singleIdentifier
  | _ => none

/-- An operator does not come last. -/
def trailingOperatorRule (classes : List TokenClass) : Option Violation :=
  if classes.getLast? = some .operator then some .trailingOperator else none

/-- No two operators stand side by side. -/
def consecutiveOperatorsRule : List TokenClass → Option Violation
  | .operator :: .operator :: _ => some .consecutiveOperators
  | _ :: rest => consecutiveOperatorsRule rest
  | [] => none

/-- An operator does not come first. -/
def leadingOperatorRule : List TokenClass → Option Violation
  | .operator :: _ => some .leadingOperator
  | _ => none

/-- Parentheses balance, when `depth` of them are open at the start. -/
def balanceRuleAt (depth : Nat) : List TokenClass → Option Violation
  | [] => if depth = 0 then none else some .unclosedParens
  | .opening :: rest => balanceRuleAt (depth + 1) rest
  | .closing :: rest =>
    match depth with
    | 0 => some .unmatchedClose
    | d + 1 => balanceRuleAt d rest
  | _ :: rest => balanceRuleAt depth rest

/-- Parentheses balance. -/
def balanceRule : List TokenClass → Option Violation :=
  balanceRuleAt 0

/-- What may follow an identifier or an operator; the leftmost breach counts. -/
def adjacencyRule : List TokenClass → Option Violation
  | .identifier :: .identifier :: _ => some .identifierFollowedBy
  | .identifier :: .opening :: _ => some .identifierFollowedBy
  | [.operator] => some .operatorAtEnd
  | .operator :: .operator :: _ => some .operatorFollowedBy
  | .operator :: .closing :: _ => some .operatorFollowedBy
  | _ :: rest => adjacencyRule rest
  | [] => none

/-- The rules in the order in which they are tried. -/
def rules : List (List TokenClass → Option Violation) :=
  [singleIdentifierRule, trailingOperatorRule, consecutiveOperatorsRule, leadingOperatorRule,
    balanceRule, adjacencyRule]

/-- The first broken rule. -/
def firstViolation (classes : List TokenClass) : Option Violation :=
  rules.findSome? fun rule => rule classes

/-- The verdict on a list of labels. -/
def validate (labels : List String) : Verdict :=
  ⟨firstViolation (labels.map TokenClass.ofLabel)⟩

end Expression

end FilterChips

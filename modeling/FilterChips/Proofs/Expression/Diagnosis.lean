/-
FilterChips.Proofs.Expression.Diagnosis — which violation the validator
reports when a list of tokens breaks several rules at once.

`Violation.Describes` says of each violation, on its own and without a
scan, what it finds fault with: a list that is one identifier, a token at
one end, a pair of neighbours, a beginning that closes more parentheses
than it opens. `Violation.byPrecedence` is the order in which they win.
`firstViolation_eq_find?` then says all there is to say: the verdict is
the first description in that order that fits.

Two rules are not tied to one violation.

* The balance rule counts and stops at the first parenthesis that closes
  nothing. What it carries along is the number of open parentheses, so
  the description is proved for any number open at the start
  (`balanceRuleAt_eq_ite`).
* The adjacency rule reports whichever breach is leftmost. It also knows
  two breaches by an operator that earlier rules report; where those have
  passed, it is a search among the pairs of neighbours
  (`adjacencyRule_eq_findSome?`).
-/
import Mathlib.Data.List.Infix
import FilterChips.Proofs.Expression.Rules

namespace FilterChips

/-! ## §1 What a violation says -/

/-- What is wrong with a token right before another one, as far as it is
for the adjacency rule to say. -/
def TokenClass.misfit? : TokenClass → TokenClass → Option Violation
  | .identifier, .identifier => some .identifierFollowedBy
  | .identifier, .opening => some .identifierFollowedBy
  | .operator, .closing => some .operatorFollowedBy
  | _, _ => none

theorem TokenClass.eq_of_misfit? {c d : TokenClass} {v : Violation} (h : c.misfit? d = some v) :
    v = .identifierFollowedBy ∨ v = .operatorFollowedBy := by
  cases c <;> cases d <;> simp_all [misfit?]

namespace Expression

/-- The pairs of tokens that stand side by side, from left to right. -/
def neighbours (classes : List TokenClass) : List (TokenClass × TokenClass) :=
  classes.zip classes.tail

@[simp] theorem neighbours_nil : neighbours [] = [] := rfl

@[simp] theorem neighbours_singleton (c : TokenClass) : neighbours [c] = [] := rfl

@[simp] theorem neighbours_cons_cons (c d : TokenClass) (rest : List TokenClass) :
    neighbours (c :: d :: rest) = (c, d) :: neighbours (d :: rest) := rfl

/-- Of the neighbours that do not fit together, the leftmost ones are in
breach in the way of `v`. -/
def LeftmostMisfit (v : Violation) (classes : List TokenClass) : Prop :=
  ∃ before c d after, neighbours classes = before ++ (c, d) :: after ∧ c.misfit? d = some v ∧
    ∀ pair ∈ before, pair.1.misfit? pair.2 = none

theorem findSome?_neighbours_eq_some_iff (v : Violation) (classes : List TokenClass) :
    (neighbours classes).findSome? (fun pair => pair.1.misfit? pair.2) = some v ↔
      LeftmostMisfit v classes := by
  rw [List.findSome?_eq_some_iff]
  constructor
  · rintro ⟨before, ⟨c, d⟩, after, heq, hv, hbefore⟩
    exact ⟨before, c, d, after, heq, hv, hbefore⟩
  · rintro ⟨before, c, d, after, heq, hv, hbefore⟩
    exact ⟨before, (c, d), after, heq, hv, hbefore⟩

/-- Some beginning of a list closes more parentheses than it opens, when
`depth` of them are open at the start. -/
def Overcloses (depth : Nat) (classes : List TokenClass) : Prop :=
  ∃ part, part <+: classes ∧ depth + part.count .opening < part.count .closing

instance decidableOvercloses (depth : Nat) (classes : List TokenClass) :
    Decidable (Overcloses depth classes) :=
  decidable_of_iff
    (∃ part ∈ classes.inits, depth + part.count TokenClass.opening < part.count .closing)
    (by simp only [List.mem_inits]; exact Iff.rfl)

end Expression

namespace Violation

open Expression

/-- What each violation says of a list of tokens. -/
def Describes : Violation → List TokenClass → Prop
  | .singleIdentifier, classes => classes = [.identifier]
  | .trailingOperator, classes => classes.getLast? = some .operator
  | .consecutiveOperators, classes => (.operator, .operator) ∈ neighbours classes
  | .leadingOperator, classes => classes.head? = some .operator
  | .unmatchedClose, classes =>
    ∃ part, part <+: classes ∧ part.count .opening < part.count .closing
  | .unclosedParens, classes => classes.count .closing < classes.count .opening
  | .identifierFollowedBy, classes => LeftmostMisfit .identifierFollowedBy classes
  | .operatorFollowedBy, classes => LeftmostMisfit .operatorFollowedBy classes
  | .operatorAtEnd, classes => classes.getLast? = some .operator

instance decidableDescribes (classes : List TokenClass) :
    ∀ v : Violation, Decidable (v.Describes classes)
  | .singleIdentifier => inferInstanceAs (Decidable (classes = _))
  | .trailingOperator => inferInstanceAs (Decidable (classes.getLast? = _))
  | .consecutiveOperators => inferInstanceAs (Decidable (_ ∈ neighbours classes))
  | .leadingOperator => inferInstanceAs (Decidable (classes.head? = _))
  | .unmatchedClose =>
    decidable_of_iff (Overcloses 0 classes) (by simp only [Overcloses, Nat.zero_add]; rfl)
  | .unclosedParens => inferInstanceAs (Decidable (classes.count _ < classes.count _))
  | .identifierFollowedBy => decidable_of_iff _ (findSome?_neighbours_eq_some_iff _ classes)
  | .operatorFollowedBy => decidable_of_iff _ (findSome?_neighbours_eq_some_iff _ classes)
  | .operatorAtEnd => inferInstanceAs (Decidable (classes.getLast? = _))

/-- All violations, the one that wins over the others first. Of the two
kinds of misfit there is at most one, the leftmost. -/
def byPrecedence : List Violation :=
  [.singleIdentifier, .trailingOperator, .consecutiveOperators, .leadingOperator,
    .unmatchedClose, .unclosedParens, .identifierFollowedBy, .operatorFollowedBy,
    .operatorAtEnd]

theorem mem_byPrecedence (v : Violation) : v ∈ byPrecedence := by
  cases v <;> decide

end Violation

/-! ## §2 The rules find what their violations describe -/

namespace Expression

theorem singleIdentifierRule_eq_ite (classes : List TokenClass) :
    singleIdentifierRule classes =
      if Violation.singleIdentifier.Describes classes then some .singleIdentifier else none := by
  change _ = if classes = [.identifier] then _ else _
  unfold singleIdentifierRule
  split
  · simp
  · rename_i h
    exact (if_neg h).symm

theorem trailingOperatorRule_eq_ite (classes : List TokenClass) :
    trailingOperatorRule classes =
      if Violation.trailingOperator.Describes classes then some .trailingOperator else none := rfl

theorem consecutiveOperatorsRule_eq_ite (classes : List TokenClass) :
    consecutiveOperatorsRule classes =
      if Violation.consecutiveOperators.Describes classes then some .consecutiveOperators
      else none := by
  change _ = if (.operator, .operator) ∈ neighbours classes then _ else _
  induction classes with
  | nil => rfl
  | cons c rest ih =>
    cases rest with
    | nil => cases c <;> rfl
    | cons d rest => cases c <;> cases d <;> simp_all [consecutiveOperatorsRule]

theorem leadingOperatorRule_eq_ite (classes : List TokenClass) :
    leadingOperatorRule classes =
      if Violation.leadingOperator.Describes classes then some .leadingOperator else none := by
  change _ = if classes.head? = some .operator then _ else _
  cases classes with
  | nil => rfl
  | cons c rest => cases c <;> simp [leadingOperatorRule]

/-! The balance rule, with any number of parentheses open at the start. -/

theorem not_overcloses_nil (depth : Nat) : ¬ Overcloses depth [] := by
  rintro ⟨part, hpart, hcount⟩
  obtain rfl := List.prefix_nil.mp hpart
  simp at hcount

/-- A beginning that closes too much is not empty. -/
theorem overcloses_cons_iff (depth : Nat) (c : TokenClass) (rest : List TokenClass) :
    Overcloses depth (c :: rest) ↔
      ∃ part, part <+: rest ∧
        depth + (c :: part).count .opening < (c :: part).count .closing := by
  constructor
  · rintro ⟨part, hpart, hcount⟩
    rcases List.prefix_cons_iff.mp hpart with rfl | ⟨tail, rfl, htail⟩
    · simp at hcount
    · exact ⟨tail, htail, hcount⟩
  · rintro ⟨part, hpart, hcount⟩
    exact ⟨c :: part, List.cons_prefix_cons.mpr ⟨rfl, hpart⟩, hcount⟩

theorem overcloses_opening_iff (depth : Nat) (rest : List TokenClass) :
    Overcloses depth (.opening :: rest) ↔ Overcloses (depth + 1) rest := by
  rw [overcloses_cons_iff]
  simp [Overcloses, ← Nat.add_assoc, Nat.add_right_comm]

theorem overcloses_zero_closing (rest : List TokenClass) : Overcloses 0 (.closing :: rest) := by
  rw [overcloses_cons_iff]
  exact ⟨[], List.nil_prefix, by simp⟩

theorem overcloses_succ_closing_iff (depth : Nat) (rest : List TokenClass) :
    Overcloses (depth + 1) (.closing :: rest) ↔ Overcloses depth rest := by
  rw [overcloses_cons_iff]
  simp [Overcloses, Nat.add_right_comm]

theorem overcloses_other_iff (depth : Nat) {c : TokenClass} (rest : List TokenClass)
    (hopening : c ≠ .opening) (hclosing : c ≠ .closing) :
    Overcloses depth (c :: rest) ↔ Overcloses depth rest := by
  rw [overcloses_cons_iff]
  simp only [Overcloses, List.count_cons_of_ne hopening, List.count_cons_of_ne hclosing]

theorem balanceRuleAt_eq_ite (depth : Nat) (classes : List TokenClass) :
    balanceRuleAt depth classes =
      if Overcloses depth classes then some .unmatchedClose
      else if classes.count .closing < depth + classes.count .opening then some .unclosedParens
      else none := by
  induction classes generalizing depth with
  | nil =>
    rw [if_neg (not_overcloses_nil depth)]
    rcases Nat.eq_zero_or_pos depth with rfl | hpos
    · rfl
    · simp [balanceRuleAt, hpos, Nat.ne_of_gt hpos]
  | cons c rest ih =>
    cases c with
    | opening =>
      simp [balanceRuleAt, ih, overcloses_opening_iff, ← Nat.add_assoc, Nat.add_right_comm]
    | closing =>
      cases depth with
      | zero => simp [balanceRuleAt, overcloses_zero_closing]
      | succ depth =>
        simp [balanceRuleAt, ih, overcloses_succ_closing_iff, Nat.add_right_comm]
    | operator =>
      simp [balanceRuleAt, ih, overcloses_other_iff]
    | identifier =>
      simp [balanceRuleAt, ih, overcloses_other_iff]

theorem balanceRule_eq_ite (classes : List TokenClass) :
    balanceRule classes =
      if Violation.unmatchedClose.Describes classes then some .unmatchedClose
      else if Violation.unclosedParens.Describes classes then some .unclosedParens
      else none := by
  change _ = if _ then _
    else if classes.count TokenClass.closing < classes.count TokenClass.opening then _ else _
  have overcloses : Overcloses 0 classes ↔ Violation.unmatchedClose.Describes classes := by
    simp [Overcloses, Violation.Describes]
  simp only [balanceRule, balanceRuleAt_eq_ite, overcloses, Nat.zero_add]

/-- Without a pair of operators and an operator at the end, the adjacency
rule looks for the leftmost neighbours that do not fit together. -/
theorem adjacencyRule_eq_findSome? {classes : List TokenClass}
    (consecutive : ¬ Violation.consecutiveOperators.Describes classes)
    (trailing : ¬ Violation.trailingOperator.Describes classes) :
    adjacencyRule classes =
      (neighbours classes).findSome? fun pair => pair.1.misfit? pair.2 := by
  simp only [Violation.Describes] at consecutive trailing
  induction classes with
  | nil => rfl
  | cons c rest ih =>
    cases rest with
    | nil => cases c <;> simp [adjacencyRule] at trailing ⊢
    | cons d rest =>
      simp only [neighbours_cons_cons, List.mem_cons, not_or, List.getLast?_cons_cons]
        at consecutive trailing ih ⊢
      cases c <;> cases d <;>
        simp_all [adjacencyRule, TokenClass.misfit?]

/-- It reports a misfit in the one of two ways that the leftmost one has. -/
theorem adjacencyRule_eq_ite {classes : List TokenClass}
    (consecutive : ¬ Violation.consecutiveOperators.Describes classes)
    (trailing : ¬ Violation.trailingOperator.Describes classes) :
    adjacencyRule classes =
      if Violation.identifierFollowedBy.Describes classes then some .identifierFollowedBy
      else if Violation.operatorFollowedBy.Describes classes then some .operatorFollowedBy
      else none := by
  rw [adjacencyRule_eq_findSome? consecutive trailing]
  by_cases identifier : Violation.identifierFollowedBy.Describes classes
  · rw [if_pos identifier]
    exact (findSome?_neighbours_eq_some_iff _ classes).mpr identifier
  by_cases operator : Violation.operatorFollowedBy.Describes classes
  · rw [if_neg identifier, if_pos operator]
    exact (findSome?_neighbours_eq_some_iff _ classes).mpr operator
  rw [if_neg identifier, if_neg operator, Option.eq_none_iff_forall_ne_some]
  intro v hv
  obtain ⟨-, c, d, -, -, hmisfit, -⟩ := id ((findSome?_neighbours_eq_some_iff v classes).mp hv)
  rcases TokenClass.eq_of_misfit? hmisfit with rfl | rfl
  · exact identifier ((findSome?_neighbours_eq_some_iff _ classes).mp hv)
  · exact operator ((findSome?_neighbours_eq_some_iff _ classes).mp hv)

/-! ## §3 The verdict -/

/-- The verdict is the first description that fits. -/
theorem firstViolation_eq_find? (classes : List TokenClass) :
    firstViolation classes =
      Violation.byPrecedence.find? fun v => decide (v.Describes classes) := by
  simp only [firstViolation, rules, List.findSome?_cons, List.findSome?_nil,
    Violation.byPrecedence, List.find?_cons, List.find?_nil,
    singleIdentifierRule_eq_ite, trailingOperatorRule_eq_ite, consecutiveOperatorsRule_eq_ite,
    leadingOperatorRule_eq_ite, balanceRule_eq_ite]
  by_cases single : Violation.singleIdentifier.Describes classes
  · simp [single]
  by_cases trailing : Violation.trailingOperator.Describes classes
  · simp [single, trailing]
  by_cases consecutive : Violation.consecutiveOperators.Describes classes
  · simp [single, trailing, consecutive]
  have atEnd : ¬ Violation.operatorAtEnd.Describes classes := trailing
  simp only [single, trailing, consecutive, atEnd, adjacencyRule_eq_ite consecutive trailing]
  by_cases leading : Violation.leadingOperator.Describes classes
  · simp [leading]
  by_cases unmatched : Violation.unmatchedClose.Describes classes
  · simp [leading, unmatched]
  by_cases unclosed : Violation.unclosedParens.Describes classes
  · simp [leading, unmatched, unclosed]
  by_cases identifier : Violation.identifierFollowedBy.Describes classes
  · simp [leading, unmatched, unclosed, identifier]
  by_cases operator : Violation.operatorFollowedBy.Describes classes <;>
    simp [leading, unmatched, unclosed, identifier, operator]

/-- **The verdict is the first description that fits**: a violation is
reported exactly when it describes the list and none that takes
precedence does; a list is valid exactly when nothing describes it; and an
operator at the end is always reported as a trailing one. -/
theorem violation_validate_eq_some_iff (labels : List String) :
    (∀ v, (validate labels).violation = some v ↔
      ∃ earlier later, Violation.byPrecedence = earlier ++ v :: later ∧
        v.Describes (labels.map TokenClass.ofLabel) ∧
        ∀ w ∈ earlier, ¬ w.Describes (labels.map TokenClass.ofLabel)) ∧
      ((validate labels).isValid = true ↔
        ∀ v : Violation, ¬ v.Describes (labels.map TokenClass.ofLabel)) ∧
      (validate labels).violation ≠ some .operatorAtEnd := by
  have reported (v : Violation) : (validate labels).violation = some v ↔
      ∃ earlier later, Violation.byPrecedence = earlier ++ v :: later ∧
        v.Describes (labels.map TokenClass.ofLabel) ∧
        ∀ w ∈ earlier, ¬ w.Describes (labels.map TokenClass.ofLabel) := by
    rw [validate, firstViolation_eq_find?, List.find?_eq_some_iff_append]
    simp only [decide_eq_true_eq, Bool.not_eq_true', decide_eq_false_iff_not]
    constructor
    · rintro ⟨describes, earlier, later, heq, hearlier⟩
      exact ⟨earlier, later, heq, describes, hearlier⟩
    · rintro ⟨earlier, later, heq, describes, hearlier⟩
      exact ⟨describes, earlier, later, heq, hearlier⟩
  refine ⟨reported, ?_, ?_⟩
  · rw [isValid_validate_iff, firstViolation_eq_find?, List.find?_eq_none]
    simp [Violation.mem_byPrecedence]
  · intro h
    have trailing : Violation.trailingOperator.Describes (labels.map TokenClass.ofLabel) := by
      obtain ⟨-, -, -, atEnd, -⟩ := (reported _).mp h
      exact atEnd
    simp only [validate, firstViolation_eq_find?, Violation.byPrecedence, List.find?_cons,
      trailing, decide_true] at h
    split at h <;> cases h

-- An unmatched parenthesis wins over two names side by side, wherever they stand.
example : (validate ["pizza", "sushi", ")"]).violation = some .unmatchedClose := by decide

end Expression

end FilterChips

/-
FilterChips.Chip — conditions, token classes and chips.

A chip is a labelled token of a filter expression. The four conditions `AND`, `OR`, `(` and `)` are
in unlimited supply; any other label names an identifier, of which there is one of each.
`Condition.ofLabel?_label` and `Condition.label_of_ofLabel?` say that conditions and their labels
correspond one to one.
-/
namespace FilterChips

/-! ## 1. Conditions -/

/-- The fixed symbols of the expression language. -/
inductive Condition where
  | and
  | or
  | opening
  | closing
  deriving DecidableEq, Repr

namespace Condition

/-- All conditions, in the order in which they are offered. -/
def all : List Condition := [.and, .or, .opening, .closing]

/-- The symbol that writes a condition. -/
def label : Condition → String
  | .and => "AND"
  | .or => "OR"
  | .opening => "("
  | .closing => ")"

/-- The condition that a label writes, letter by letter as it stands. -/
def ofLabel? (label : String) : Option Condition :=
  all.find? fun c => c.label = label

theorem ofLabel?_label (c : Condition) : ofLabel? c.label = some c := by
  cases c <;> decide

theorem label_of_ofLabel? {s : String} {c : Condition} (h : ofLabel? s = some c) : c.label = s := by
  simpa using List.find?_some h

theorem mem_all (c : Condition) : c ∈ all := by
  cases c <;> decide

end Condition

/-! ## 2. Token classes -/

/-- What a token is to the grammar. -/
inductive TokenClass where
  | opening
  | closing
  | operator
  | identifier
  deriving DecidableEq, Repr

namespace TokenClass

/-- The class of a condition. -/
def ofCondition : Condition → TokenClass
  | .and => .operator
  | .or => .operator
  | .opening => .opening
  | .closing => .closing

/-- The class of a label: that of the condition it writes, or else an identifier. -/
def ofLabel (label : String) : TokenClass :=
  ((Condition.ofLabel? label).map ofCondition).getD .identifier

theorem ofLabel_eq_identifier_iff (s : String) :
    ofLabel s = .identifier ↔ Condition.ofLabel? s = none := by
  unfold ofLabel
  cases Condition.ofLabel? s with
  | none => simp
  | some c => cases c <;> simp [ofCondition]

end TokenClass

/-! ## 3. Chips -/

/-- A chip stands for a condition or for an identifier. -/
inductive ChipKind where
  | condition (c : Condition)
  | identifier
  deriving DecidableEq, Repr

/-- A labelled token that can be placed in an expression. -/
structure Chip where
  label : String
  kind : ChipKind
  deriving DecidableEq, Repr

namespace Chip

/-- The identifier with a given label. -/
def identifier (label : String) : Chip := ⟨label, .identifier⟩

/-- The chip of a condition. -/
def condition (c : Condition) : Chip := ⟨c.label, .condition c⟩

/-- The chip that a label stands for. -/
def ofLabel (label : String) : Chip :=
  match Condition.ofLabel? label with
  | some c => condition c
  | none => identifier label

/-- Whether the chip is an identifier, going by its kind. -/
def isIdentifier (chip : Chip) : Bool :=
  chip.kind = .identifier

/-- The class of the chip, going by its label. -/
def tokenClass (chip : Chip) : TokenClass :=
  .ofLabel chip.label

/-- An identifier is determined by its label. -/
theorem eq_identifier {chip : Chip} (h : chip.isIdentifier = true) :
    chip = .identifier chip.label := by
  obtain ⟨label, kind⟩ := chip
  simp only [isIdentifier, decide_eq_true_eq] at h
  rw [h]
  rfl

@[simp] theorem label_identifier (s : String) : (identifier s).label = s := rfl

theorem ofLabel_of_some {s : String} {c : Condition} (h : Condition.ofLabel? s = some c) :
    ofLabel s = condition c := by
  simp [ofLabel, h]

theorem ofLabel_of_none {s : String} (h : Condition.ofLabel? s = none) :
    ofLabel s = identifier s := by
  simp [ofLabel, h]

@[simp] theorem label_ofLabel (s : String) : (ofLabel s).label = s := by
  unfold ofLabel
  split
  · exact Condition.label_of_ofLabel? (by assumption)
  · rfl

@[simp] theorem isIdentifier_identifier (s : String) : (identifier s).isIdentifier = true := rfl

@[simp] theorem isIdentifier_condition (c : Condition) : (condition c).isIdentifier = false := rfl

/-- For a chip made from its label, kind and class agree. -/
theorem isIdentifier_ofLabel_iff (s : String) :
    (ofLabel s).isIdentifier = true ↔ TokenClass.ofLabel s = .identifier := by
  rw [TokenClass.ofLabel_eq_identifier_iff]
  unfold ofLabel
  split <;> simp [*]

end Chip

end FilterChips

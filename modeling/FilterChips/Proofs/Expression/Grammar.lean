/-
FilterChips.Proofs.Expression.Grammar — the validator accepts exactly the
expressions of a grammar of nested groups.

The validator scans a flat list of tokens; the grammar speaks of items, a
group being an item that holds items. Two facts relate them.

* Flattening loses nothing the rules could see. The balance rule passes
  over a flattened item as if it were not there, and what may come after
  an item in its list is what may come after its first token in the flat
  list (`mayPrecede_first_iff`). The second is true because a list of
  items is followed by nothing or by the closing parenthesis of its
  group, and these two put no demand on what stands before them that the
  end of the list would not.
* Every balanced list is a flattened one. Read from the right, a list
  that has `depth` unmatched closing parentheses to come is made of
  `depth + 1` lists of items with those parentheses between them
  (`exists_levels`): an opening parenthesis joins the first two of them,
  a closing one starts a new one. For a whole expression `depth` is zero.
-/
import FilterChips.Proofs.Expression.Rules

namespace FilterChips

namespace Expression

/-! ## §1 Items -/

/-- A part of an expression; a group stands for its parentheses and what
is between them. -/
inductive Item where
  | identifier
  | operator
  | group (items : List Item)

mutual

/-- The tokens of an item. -/
def Item.flatten : Item → List TokenClass
  | .identifier => [.identifier]
  | .operator => [.operator]
  | .group items => .opening :: (flattenAll items ++ [.closing])

/-- The tokens of a list of items. -/
def flattenAll : List Item → List TokenClass
  | [] => []
  | item :: items => item.flatten ++ flattenAll items

end

namespace Item

/-- The first token of an item. -/
def first : Item → TokenClass
  | .identifier => .identifier
  | .operator => .operator
  | .group _ => .opening

/-- The list of items within an item: that of a group, and none else. -/
def contents : Item → List Item
  | .group items => items
  | _ => []

/-- What may come after an item in its list; `none` is the end. -/
def MayPrecede : Item → Option Item → Prop
  | .identifier, next => next = none ∨ next = some .operator
  | .operator, next => next = some .identifier ∨ ∃ items, next = some (.group items)
  | .group _, _ => True

end Item

/-- A list of items in which, at every level of nesting, an identifier is
last or before an operator, and an operator is before an identifier or a
group. -/
inductive WellOrdered : List Item → Prop where
  | nil : WellOrdered []
  | cons {item : Item} {items : List Item} :
      item.MayPrecede items.head? → WellOrdered item.contents → WellOrdered items →
      WellOrdered (item :: items)

/-! ## §2 Flattened items under the rules -/

mutual

theorem balanceRuleAt_flatten (item : Item) (depth : Nat) (rest : List TokenClass) :
    balanceRuleAt depth (item.flatten ++ rest) = balanceRuleAt depth rest := by
  cases item with
  | identifier => simp [Item.flatten, balanceRuleAt]
  | operator => simp [Item.flatten, balanceRuleAt]
  | group items =>
    have inner := balanceRuleAt_flattenAll items (depth + 1) (.closing :: rest)
    simpa [Item.flatten, balanceRuleAt] using inner

/-- The balance rule passes over flattened items. -/
theorem balanceRuleAt_flattenAll (items : List Item) (depth : Nat) (rest : List TokenClass) :
    balanceRuleAt depth (flattenAll items ++ rest) = balanceRuleAt depth rest := by
  cases items with
  | nil => rfl
  | cons item items =>
    rw [flattenAll, List.append_assoc, balanceRuleAt_flatten item,
      balanceRuleAt_flattenAll items]

end

theorem head?_flattenAll_append (items : List Item) (rest : List TokenClass) :
    (flattenAll items ++ rest).head? = (items.head?.map Item.first).or rest.head? := by
  cases items with
  | nil => rfl
  | cons item items => cases item <;> simp [flattenAll, Item.flatten, Item.first]

/-- What may come after an item is what may come after its first token,
where its list is followed by nothing or by a closing parenthesis. -/
theorem mayPrecede_first_iff (item : Item) (next : Option Item) {after : Option TokenClass}
    (h : after = none ∨ after = some .closing) :
    item.first.MayPrecede ((next.map Item.first).or after) ↔ item.MayPrecede next := by
  cases item with
  | group items => exact Iff.rfl
  | identifier =>
    rcases next with _ | ⟨_ | _ | _⟩ <;> rcases h with rfl | rfl <;>
      simp [Item.first, Item.MayPrecede, TokenClass.MayPrecede]
  | operator =>
    rcases next with _ | ⟨_ | _ | _⟩ <;> rcases h with rfl | rfl <;>
      simp [Item.first, Item.MayPrecede, TokenClass.MayPrecede]

/-- Well-ordered items pass the adjacency rule if what follows them does. -/
theorem adjacencyRule_flattenAll {items : List Item} (h : WellOrdered items) :
    ∀ rest : List TokenClass, rest.head? = none ∨ rest.head? = some .closing →
      adjacencyRule rest = none → adjacencyRule (flattenAll items ++ rest) = none := by
  induction h with
  | nil => intro rest _ hrest; exact hrest
  | @cons item items next _ _ ihcontents ihitems =>
    intro rest hhead hrest
    have tail := ihitems rest hhead hrest
    have follows := (mayPrecede_first_iff item items.head? hhead).mpr next
    rw [← head?_flattenAll_append] at follows
    cases item with
    | identifier => exact (adjacencyRule_cons_eq_none_iff _ _).mpr ⟨follows, tail⟩
    | operator => exact (adjacencyRule_cons_eq_none_iff _ _).mpr ⟨follows, tail⟩
    | group inner =>
      have closed : adjacencyRule (.closing :: (flattenAll items ++ rest)) = none :=
        (adjacencyRule_cons_eq_none_iff _ _).mpr ⟨trivial, tail⟩
      have opened := ihcontents _ (Or.inr rfl) closed
      simp only [flattenAll, Item.flatten, List.cons_append, List.append_assoc, List.nil_append]
      exact (adjacencyRule_cons_eq_none_iff _ _).mpr ⟨trivial, opened⟩

/-! ## §3 Reading a balanced list -/

/-- The lists of items of the groups that are still open, from the inside
out, each behind the parenthesis that closes the group before it. -/
def unwind (outer : List (List Item)) : List TokenClass :=
  outer.flatMap fun items => .closing :: flattenAll items

theorem head?_unwind (outer : List (List Item)) :
    (unwind outer).head? = none ∨ (unwind outer).head? = some .closing := by
  cases outer with
  | nil => exact Or.inl rfl
  | cons items outer => exact Or.inr rfl

/-- A list that balances once `depth` groups are open, and passes the
adjacency rule, is made of the rest of the innermost group and of what
follows each of the open groups. -/
theorem exists_levels {classes : List TokenClass} {depth : Nat}
    (balanced : balanceRuleAt depth classes = none) (adjacent : adjacencyRule classes = none) :
    ∃ (items : List Item) (outer : List (List Item)),
      outer.length = depth ∧ classes = flattenAll items ++ unwind outer ∧
        WellOrdered items ∧ ∀ level ∈ outer, WellOrdered level := by
  induction classes generalizing depth with
  | nil =>
    have hdepth : depth = 0 := by
      simpa [balanceRuleAt] using balanced
    exact ⟨[], [], hdepth.symm, rfl, .nil, by simp⟩
  | cons c classes ih =>
    obtain ⟨next, tail⟩ := (adjacencyRule_cons_eq_none_iff c classes).mp adjacent
    cases c with
    | identifier =>
      obtain ⟨items, outer, hlength, rfl, ordered, levels⟩ := ih balanced tail
      rw [head?_flattenAll_append] at next
      have follows := (mayPrecede_first_iff .identifier _ (head?_unwind outer)).mp next
      exact ⟨.identifier :: items, outer, hlength, rfl, .cons follows .nil ordered, levels⟩
    | operator =>
      obtain ⟨items, outer, hlength, rfl, ordered, levels⟩ := ih balanced tail
      rw [head?_flattenAll_append] at next
      have follows := (mayPrecede_first_iff .operator _ (head?_unwind outer)).mp next
      exact ⟨.operator :: items, outer, hlength, rfl, .cons follows .nil ordered, levels⟩
    | opening =>
      obtain ⟨items, outer, hlength, rfl, ordered, levels⟩ :=
        @ih (depth + 1) balanced tail
      obtain ⟨level, outer, rfl⟩ := List.exists_cons_of_length_eq_add_one hlength
      refine ⟨.group items :: level, outer, by simpa using hlength, ?_, ?_, ?_⟩
      · simp [flattenAll, Item.flatten, unwind]
      · exact .cons trivial ordered (levels level List.mem_cons_self)
      · exact fun l hl => levels l (List.mem_cons_of_mem _ hl)
    | closing =>
      cases depth with
      | zero => simp [balanceRuleAt] at balanced
      | succ depth =>
        obtain ⟨items, outer, hlength, rfl, ordered, levels⟩ := @ih depth balanced tail
        refine ⟨[], items :: outer, by simp [hlength], rfl, .nil, ?_⟩
        intro level hl
        rcases List.mem_cons.mp hl with rfl | hl
        · exact ordered
        · exact levels level hl

/-! ## §4 The grammar -/

theorem flattenAll_eq_identifier_iff (items : List Item) :
    flattenAll items = [.identifier] ↔ items = [.identifier] := by
  constructor
  · intro h
    rcases items with _ | ⟨_ | _ | inner, _ | ⟨item, items⟩⟩
    · simp [flattenAll] at h
    · rfl
    · cases item <;> simp [flattenAll, Item.flatten] at h
    · simp [flattenAll, Item.flatten] at h
    · simp [flattenAll, Item.flatten] at h
    · simp [flattenAll, Item.flatten] at h
    · simp [flattenAll, Item.flatten] at h
  · rintro rfl
    rfl

theorem head?_flattenAll_eq_operator_iff (items : List Item) :
    (flattenAll items).head? = some .operator ↔ items.head? = some .operator := by
  rcases items with _ | ⟨_ | _ | _, _⟩ <;> simp [flattenAll, Item.flatten]

/-- **The grammar of valid expressions**: a list of labels is valid exactly
when its tokens are those of a well-ordered list of items that does not
begin with an operator and is not an identifier alone. -/
theorem isValid_iff_grammatical (labels : List String) :
    (validate labels).isValid = true ↔
      ∃ items : List Item, labels.map TokenClass.ofLabel = flattenAll items ∧
        WellOrdered items ∧ items.head? ≠ some .operator ∧ items ≠ [.identifier] := by
  rw [isValid_validate_iff, firstViolation_eq_none_iff]
  constructor
  · rintro ⟨single, leading, balanced, adjacent⟩
    obtain ⟨items, outer, hlength, heq, ordered, -⟩ := exists_levels balanced adjacent
    obtain rfl := List.length_eq_zero_iff.mp hlength
    rw [unwind, List.flatMap_nil, List.append_nil] at heq
    rw [heq] at single leading
    exact ⟨items, heq, ordered, mt (head?_flattenAll_eq_operator_iff items).mpr leading,
      mt (flattenAll_eq_identifier_iff items).mpr single⟩
  · rintro ⟨items, heq, ordered, leading, single⟩
    have balanced := balanceRuleAt_flattenAll items 0 []
    have adjacent := adjacencyRule_flattenAll ordered [] (Or.inl rfl) rfl
    rw [List.append_nil] at balanced adjacent
    rw [heq]
    exact ⟨mt (flattenAll_eq_identifier_iff items).mp single,
      mt (head?_flattenAll_eq_operator_iff items).mp leading, balanced, adjacent⟩

-- Only the outermost list must not begin with an operator.
example : (validate ["(", "OR", "pizza", ")"]).isValid = true := by decide

end Expression

end FilterChips

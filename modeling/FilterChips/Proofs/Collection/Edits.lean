/-
FilterChips.Proofs.Collection.Edits — the operations of a collection as
data, and the collections that they can reach.

What is said of "any operations in any order" is said of a list of
`Edit`s: `perform` carries one of them out and `performAll` a whole
list. An edit keeps every argument its operation takes — any chip, any
index, any commit — and leaves out what the operation answers.
-/
import FilterChips.Collection

namespace FilterChips

namespace Collection

/-- An operation on a collection together with its arguments. -/
inductive Edit where
  | add (chip : Chip)
  | clear
  | trash (index : Nat)
  | apply (commit : Drag.Commit)
  | scheduleValidation
  | revalidate
  | validateNow
  deriving DecidableEq

/-- The collection after an operation. -/
def perform (c : Collection) : Edit → Collection
  | .add chip => (c.add chip).2
  | .clear => c.clear
  | .trash index => (c.trash index).2
  | .apply commit => c.apply commit
  | .scheduleValidation => c.scheduleValidation
  | .revalidate => c.revalidate.2
  | .validateNow => c.validateNow

/-- The collection after some operations, the first of the list first. -/
def performAll (c : Collection) (edits : List Edit) : Collection :=
  edits.foldl perform c

@[simp] theorem performAll_nil (c : Collection) : c.performAll [] = c := rfl

@[simp] theorem performAll_cons (c : Collection) (edit : Edit) (edits : List Edit) :
    c.performAll (edit :: edits) = (c.perform edit).performAll edits := rfl

theorem performAll_append (c : Collection) (first second : List Edit) :
    c.performAll (first ++ second) = (c.performAll first).performAll second :=
  List.foldl_append

/-- What every operation keeps, every run of operations keeps. -/
theorem performAll_induction {P : Collection → Prop}
    (step : ∀ (c : Collection) (edit : Edit), P c → P (c.perform edit))
    (edits : List Edit) : ∀ c : Collection, P c → P (c.performAll edits) := by
  induction edits with
  | nil => intro c hc; exact hc
  | cons edit edits ih =>
    intro c hc
    exact ih (c.perform edit) (step c edit hc)

/-- The collections that are made from a pool and an initial expression
and then only changed by operations. -/
def Reachable (c : Collection) : Prop :=
  ∃ (pool : IdentifierPool) (initial : List String) (edits : List Edit),
    c = (ofInitial pool initial).performAll edits

theorem reachable_ofInitial (pool : IdentifierPool) (initial : List String) :
    (ofInitial pool initial).Reachable :=
  ⟨pool, initial, [], rfl⟩

theorem Reachable.performAll {c : Collection} (h : c.Reachable) (edits : List Edit) :
    (c.performAll edits).Reachable := by
  obtain ⟨pool, initial, earlier, rfl⟩ := h
  exact ⟨pool, initial, earlier ++ edits, (performAll_append _ _ _).symm⟩

end Collection

end FilterChips

/-
FilterChips.Proofs.Number.Double — the integers nearest to doubles, and
the least and the greatest of several doubles.

* `nearest` rounds exact numbers, a half away from zero. `roundToInt64`
  counts units; `nearestInt64` says the same of the value, by what is
  `nearest` to it, held within 64 bits (`roundToInt64_eq_nearestInt64`).
* `min` and `max` choose one of two numbers, and NaN only beside another
  NaN (`chooses_min`, `chooses_max`). Whatever chooses so, folded over
  some numbers, gives the outermost of them, NaN not counted
  (`Chooses.outermost_foldl`).
-/
import FilterChips.Number.Double
import Mathlib.Algebra.Order.Floor.Ring
import Mathlib.Data.List.Induction
import Mathlib.Data.Rat.Floor
import Mathlib.Tactic.FieldSimp
import Mathlib.Tactic.Linarith

namespace FilterChips

/-! ## §1 The nearest integer -/

/-- The nearest whole number, halves away from zero. -/
def nearest (q : ℚ) : ℤ :=
  if 0 ≤ q then ⌊q + 1 / 2⌋ else ⌈q - 1 / 2⌉

theorem nearest_of_nonneg {q : ℚ} (h : 0 ≤ q) : nearest q = ⌊q + 1 / 2⌋ :=
  if_pos h

theorem nearest_nonneg {q : ℚ} (h : 0 ≤ q) : 0 ≤ nearest q := by
  rw [nearest_of_nonneg h]
  exact Int.floor_nonneg.mpr (by linarith)

/-- Numbers that are one apart round to different ones. -/
theorem nearest_lt {p q : ℚ} (hp : 0 ≤ p) (apart : p + 1 ≤ q) : nearest p < nearest q := by
  rw [nearest_of_nonneg hp, nearest_of_nonneg (by linarith)]
  have step : ⌊p + 1 / 2⌋ + 1 ≤ ⌊q + 1 / 2⌋ := by
    rw [← Int.floor_add_one]
    exact Int.floor_le_floor (by linarith)
  omega

theorem nearest_neg {q : ℚ} (h : 0 ≤ q) : nearest (-q) = -nearest q := by
  rcases h.eq_or_lt with rfl | positive
  · norm_num [nearest]
  · have negative : ¬0 ≤ -q := not_le.mpr (neg_neg_of_pos positive)
    rw [nearest_of_nonneg h, nearest, if_neg negative, ← Int.ceil_neg, neg_add']

/-- Of quotients of natural numbers it is the integer that `roundHalfUp`
gives. -/
theorem nearest_div (num den : Nat) : nearest ((num : ℚ) / den) = roundHalfUp num den := by
  have nonneg : (0 : ℚ) ≤ num / den := div_nonneg (Nat.cast_nonneg _) (Nat.cast_nonneg _)
  rw [nearest_of_nonneg nonneg, roundHalfUp]
  rcases Nat.eq_zero_or_pos den with rfl | h
  · -- By zero both quotients are zero.
    norm_num
  · have positive : (0 : ℚ) < den := Nat.cast_pos.mpr h
    have shifted : (num : ℚ) / den + 1 / 2 =
        ((2 * num + den : Nat) : ℚ) / ((2 * den : Nat) : ℚ) := by
      push_cast
      field_simp
    rw [shifted, Rat.floor_natCast_div_natCast]
    rfl

/-- The integer of 64 bits nearest to an integer. -/
def saturate (n : Int) : Int :=
  max Int64.minValue.toInt (min n Int64.maxValue.toInt)

/-- Only the bound on its own side of zero holds a number back. -/
theorem saturate_natCast (n : Nat) : saturate n = min Int64.maxValue.toInt n := by
  rw [saturate, Int64.toInt_minValue, Int64.toInt_maxValue]
  omega

theorem saturate_neg_natCast (n : Nat) : saturate (-n) = max Int64.minValue.toInt (-n) := by
  rw [saturate, Int64.toInt_minValue, Int64.toInt_maxValue]
  omega

namespace Double

/-- The nearest of the integers of 64 bits; NaN counts as 0. -/
def nearestInt64 : Double → Int
  | .nan => 0
  | .infinity negative => if negative then Int64.minValue.toInt else Int64.maxValue.toInt
  | .finite negative units _ =>
    let magnitude : ℚ := units / one
    saturate (FilterChips.nearest (if negative then -magnitude else magnitude))

theorem roundToInt64_eq_nearestInt64 (x : Double) : x.roundToInt64 = x.nearestInt64 := by
  cases x with
  | nan => rfl
  | infinity negative => cases negative <;> rfl
  | finite negative units _ =>
    have nonneg : (0 : ℚ) ≤ units / one := div_nonneg (Nat.cast_nonneg _) (Nat.cast_nonneg _)
    have rounded := nearest_div units one
    cases negative with
    | false =>
      simp only [roundToInt64, nearestInt64, Bool.false_eq_true, if_false]
      rw [rounded, saturate_natCast, Int64.toInt_maxValue]
    | true =>
      simp only [roundToInt64, nearestInt64, if_true]
      rw [nearest_neg nonneg, rounded, saturate_neg_natCast, Int64.toInt_minValue]

/-! ## §2 The outermost of several numbers -/

theorem exists_rank {x : Double} (h : x ≠ .nan) : ∃ i, x.rank = some i := by
  cases x with
  | nan => exact absurd rfl h
  | infinity negative => exact ⟨_, rfl⟩
  | finite negative units _ => exact ⟨_, rfl⟩

theorem ne_nan_of_le {x y : Double} (h : x ≤ y) : x ≠ .nan ∧ y ≠ .nan := by
  obtain ⟨i, hi, j, hj, -⟩ := h
  constructor
  · rintro rfl
    cases hi
  · rintro rfl
    cases hj

theorem le_refl_of_ne_nan {x : Double} (h : x ≠ .nan) : x ≤ x := by
  obtain ⟨i, hi⟩ := exists_rank h
  exact ⟨i, hi, i, hi, Int.le_refl i⟩

theorem le_trans {x y z : Double} (h : x ≤ y) (h' : y ≤ z) : x ≤ z := by
  obtain ⟨i, hi, j, hj, le⟩ := h
  obtain ⟨j', hj', k, hk, le'⟩ := h'
  cases Option.some.inj (hj.symm.trans hj')
  exact ⟨i, hi, k, hk, Int.le_trans le le'⟩

theorem le_of_lt {x y : Double} (h : x < y) : x ≤ y := by
  obtain ⟨i, hi, j, hj, less⟩ := h
  exact ⟨i, hi, j, hj, Int.le_of_lt less⟩

/-- Numbers other than NaN are all comparable. -/
theorem le_of_not_lt {x y : Double} (hx : x ≠ .nan) (hy : y ≠ .nan) (h : ¬ x < y) : y ≤ x := by
  obtain ⟨i, hi⟩ := exists_rank hx
  obtain ⟨j, hj⟩ := exists_rank hy
  exact ⟨j, hj, i, hi, Int.not_lt.mp fun less => h ⟨i, hi, j, hj, less⟩⟩

section Choice

variable {before less : Double → Double → Prop} {op : Double → Double → Double}

/-- One of some numbers that is before all of them in an order, NaN not
counted. Under `≤` and `≥`, which never hold of NaN, it is NaN only where
all of them are. -/
structure Outermost (before : Double → Double → Prop) (xs : List Double) (x : Double) : Prop where
  mem : x ∈ xs
  outer : ∀ y ∈ xs, y ≠ .nan → before x y

/-- The operation chooses the one of two numbers that is before the other
in an order, and NaN only beside another NaN. -/
structure Chooses (before : Double → Double → Prop) (op : Double → Double → Double) : Prop where
  choice : ∀ x y, op x y = x ∨ op x y = y
  left : ∀ x y, x ≠ .nan → before (op x y) x
  right : ∀ x y, y ≠ .nan → before (op x y) y
  trans : ∀ {x y z}, before x y → before y z → before x z
  ne_nan : ∀ {x y}, before x y → x ≠ .nan

/-- What is chosen by a comparison that gives way to the second number,
unless this is NaN. -/
theorem chooses_of_comparison (first : ∀ {x y}, y = .nan ∨ less x y → op x y = x)
    (second : ∀ {x y}, ¬(y = .nan ∨ less x y) → op x y = y)
    (refl : ∀ {x}, x ≠ .nan → before x x) (of_less : ∀ {x y}, less x y → before x y)
    (of_not_less : ∀ {x y}, x ≠ .nan → y ≠ .nan → ¬less x y → before y x)
    (trans : ∀ {x y z}, before x y → before y z → before x z)
    (ne_nan : ∀ {x y}, before x y → x ≠ .nan) : Chooses before op where
  choice x y := (Classical.em _).imp first second
  left x y hx := by
    by_cases h : y = .nan ∨ less x y
    · rw [first h]
      exact refl hx
    · rw [second h]
      rw [not_or] at h
      exact of_not_less hx h.1 h.2
  right x y hy := by
    by_cases h : y = .nan ∨ less x y
    · rw [first h]
      exact of_less (h.resolve_left hy)
    · rw [second h]
      exact refl hy
  trans := trans
  ne_nan := ne_nan

theorem chooses_min : Chooses (· ≤ ·) min :=
  chooses_of_comparison (fun h => if_pos h) (fun h => if_neg h) le_refl_of_ne_nan le_of_lt le_of_not_lt le_trans
    fun h => (ne_nan_of_le h).1

theorem chooses_max : Chooses (· ≥ ·) max :=
  chooses_of_comparison (fun h => if_pos h) (fun h => if_neg h) le_refl_of_ne_nan le_of_lt
    (fun hx hy h => le_of_not_lt hy hx h) (fun h h' => le_trans h' h) fun h => (ne_nan_of_le h).2

/-- What was outermost is compared with one more number. -/
theorem Chooses.outermost_concat (chooses : Chooses before op) {xs : List Double} {x : Double}
    (h : Outermost before xs x) (y : Double) : Outermost before (xs ++ [y]) (op x y) := by
  refine ⟨?_, fun z hz number => ?_⟩
  · rcases chooses.choice x y with same | same
    · simp [same, h.mem]
    · simp [same]
  · rcases List.mem_append.mp hz with hz | hz
    · -- `x` may be NaN, but not where it is before some `z`.
      have earlier := h.outer z hz number
      exact chooses.trans (chooses.left x y (chooses.ne_nan earlier)) earlier
    · cases List.mem_singleton.mp hz
      exact chooses.right x y number

/-- Choosing along a list finds the outermost of its numbers. -/
theorem Chooses.outermost_foldl (chooses : Chooses before op) (x : Double) (xs : List Double) :
    Outermost before (x :: xs) (xs.foldl op x) := by
  induction xs using List.reverseRecOn with
  | nil =>
    have alone : op x x = x := (chooses.choice x x).elim id id
    refine ⟨List.mem_singleton.mpr rfl, fun y hy number => ?_⟩
    cases List.mem_singleton.mp hy
    have itself := chooses.left x x number
    rwa [alone] at itself
  | append_singleton xs y ih =>
    rw [List.foldl_append, ← List.cons_append]
    exact chooses.outermost_concat ih y

end Choice

end Double

end FilterChips

/-
FilterChips.Number.Rounding — rounding of quotients of natural numbers, and integer square roots.

* `roundHalfEven num den` is the integer nearest `num / den`; a tie goes to the even neighbour.
* `roundHalfUp num den` is the integer nearest `num / den`; a tie goes up.
* `floorSqrt n` is the integer part of the square root of `n`.

Each is pinned by the inequality that says how far it may lie from the exact value.
-/
namespace FilterChips

-- Powers are the core library's, also where Mathlib gives others.
attribute [local instance (high)] instPowNat

/-- The integer nearest `num / den`; a tie goes to the even neighbour. -/
def roundHalfEven (num den : Nat) : Nat :=
  let q := num / den
  let r := num % den
  if 2 * r < den then q else if den < 2 * r then q + 1 else q + q % 2

/-- The integer nearest `num / den`; a tie goes up. -/
def roundHalfUp (num den : Nat) : Nat :=
  (2 * num + den) / (2 * den)

/-- Either neighbour of the quotient may be chosen, and nothing else. -/
theorem roundHalfEven_mem (num den : Nat) :
    roundHalfEven num den = num / den ∨ roundHalfEven num den = num / den + 1 := by
  unfold roundHalfEven
  dsimp only
  split
  · exact .inl rfl
  · split
    · exact .inr rfl
    · rcases Nat.mod_two_eq_zero_or_one (num / den) with h | h <;> simp [h]

theorem roundHalfEven_le (num den : Nat) : roundHalfEven num den ≤ num / den + 1 := by
  rcases roundHalfEven_mem num den with h | h <;> omega

/-- A quotient without remainder is its own rounding. -/
theorem roundHalfEven_mul_right (q : Nat) {den : Nat} (h : 0 < den) :
    roundHalfEven (q * den) den = q := by
  simp [roundHalfEven, h]

/-- The integer part of the square root of `n`, for an `n` below `4 ^ k`. -/
def floorSqrtBelow : (k n : Nat) → Nat
  | 0, _ => 0
  | k + 1, n =>
    let r := 2 * floorSqrtBelow k (n / 4)
    if (r + 1) * (r + 1) ≤ n then r + 1 else r

/-- The integer part of the square root. -/
def floorSqrt (n : Nat) : Nat :=
  floorSqrtBelow (n.log2 / 2 + 1) n

theorem floorSqrtBelow_sq_le (k n : Nat) : floorSqrtBelow k n * floorSqrtBelow k n ≤ n := by
  induction k generalizing n with
  | zero => simp [floorSqrtBelow]
  | succ k ih =>
    have h := ih (n / 4)
    simp only [floorSqrtBelow]
    split
    · assumption
    · have : 2 * floorSqrtBelow k (n / 4) * (2 * floorSqrtBelow k (n / 4)) =
          4 * (floorSqrtBelow k (n / 4) * floorSqrtBelow k (n / 4)) := by grind
      omega

theorem lt_floorSqrtBelow_succ_sq (k n : Nat) (h : n < 4 ^ k) :
    n < (floorSqrtBelow k n + 1) * (floorSqrtBelow k n + 1) := by
  induction k generalizing n with
  | zero => simp [floorSqrtBelow] at h ⊢; omega
  | succ k ih =>
    have hk : n / 4 < 4 ^ k := by rw [Nat.pow_succ] at h; omega
    have hi := ih (n / 4) hk
    simp only [floorSqrtBelow]
    generalize floorSqrtBelow k (n / 4) = s at hi ⊢
    have hs : (2 * s + 1 + 1) * (2 * s + 1 + 1) = 4 * ((s + 1) * (s + 1)) := by grind
    split
    · omega
    · omega

theorem floorSqrt_sq_le (n : Nat) : floorSqrt n * floorSqrt n ≤ n :=
  floorSqrtBelow_sq_le _ n

theorem lt_floorSqrt_succ_sq (n : Nat) : n < (floorSqrt n + 1) * (floorSqrt n + 1) := by
  apply lt_floorSqrtBelow_succ_sq
  have h1 : n < 2 ^ (n.log2 + 1) := Nat.lt_log2_self
  have h2 : (4 : Nat) ^ (n.log2 / 2 + 1) = 2 ^ (2 * (n.log2 / 2 + 1)) := by
    rw [Nat.pow_mul]
  rw [h2]
  exact Nat.lt_of_lt_of_le h1 (Nat.pow_le_pow_right (by decide) (by omega))

end FilterChips

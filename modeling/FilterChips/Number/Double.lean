/-
FilterChips.Number.Double — double-precision numbers and their arithmetic, exactly.

A finite number is a sign and a count of units of `2 ^ -1074`, the smallest positive step, so that
sums and comparisons are those of integers. `Double.ofRatio` rounds an exact quotient of units to the
nearest double (a tie goes to the even mantissa). Every operation of arithmetic is the exact result
rounded once; `hypot` is made of them and may be off by one in the last place.

* `lastPlace_dvd_nearest`: rounding yields at most 53 significant bits, so every result is a double.
* `rank` places all doubles but NaN on one line of integers; `<` and `≤` compare ranks, and a
  comparison with NaN is false.
-/
import FilterChips.Number.Rounding

namespace FilterChips

-- Powers are the core library's, also where Mathlib gives others; a number as an exponent has its
-- type written out for the same reason.
attribute [local instance (high)] instPowNat

namespace Double

/-! ## 1. Representable magnitudes -/

/-- The weight of the last bit kept of a magnitude: 53 bits are kept. -/
def lastPlace (units : Nat) : Nat :=
  2 ^ (units.log2 + 1 - 53)

/-- Finite magnitudes are below `2 ^ 1024`, which is this number of units. -/
def limit : Nat := 2 ^ (2098 : Nat)

/-- The unit value `1`. -/
def one : Nat := 2 ^ (1074 : Nat)

/-- A magnitude with at most 53 significant bits, below the limit. -/
def Representable (units : Nat) : Prop :=
  units < limit ∧ lastPlace units ∣ units

instance (units : Nat) : Decidable (Representable units) :=
  inferInstanceAs (Decidable (_ ∧ _))

/-- The magnitude of 53 bits nearest `num / den`; a tie goes to the even mantissa. -/
def nearest (num den : Nat) : Nat :=
  let step := lastPlace (num / den)
  roundHalfEven num (den * step) * step

theorem lastPlace_pos (u : Nat) : 0 < lastPlace u :=
  Nat.two_pow_pos _

/-- A number below `2 ^ 53` steps, or equal to it, is a multiple of its own last place. -/
theorem lastPlace_dvd_mul {r e : Nat} (h : r ≤ 2 ^ (53 : Nat)) :
    lastPlace (r * 2 ^ e) ∣ r * 2 ^ e := by
  unfold lastPlace
  rcases Nat.lt_or_ge r (2 ^ (53 : Nat)) with hr | hr
  · by_cases h0 : r = 0
    · simp [h0]
    · have hlog : (r * 2 ^ e).log2 < 53 + e := by
        rw [Nat.log2_lt (Nat.mul_ne_zero h0 (Nat.ne_of_gt (Nat.two_pow_pos e))), Nat.pow_add]
        exact Nat.mul_lt_mul_of_pos_right hr (Nat.two_pow_pos e)
      exact Nat.dvd_trans (Nat.pow_dvd_pow 2 (by omega)) (Nat.dvd_mul_left _ _)
  · have hr' : r = 2 ^ (53 : Nat) := by omega
    subst hr'
    rw [← Nat.pow_add, Nat.log2_two_pow]
    exact Nat.pow_dvd_pow 2 (by omega)

theorem lastPlace_dvd_nearest (num den : Nat) : lastPlace (nearest num den) ∣ nearest num den := by
  unfold nearest
  refine lastPlace_dvd_mul (e := (num / den).log2 + 1 - 53) ?_
  have hle := roundHalfEven_le num (den * lastPlace (num / den))
  have hq : num / (den * lastPlace (num / den)) < 2 ^ (53 : Nat) := by
    rw [← Nat.div_div_eq_div_mul]
    generalize num / den = q
    apply (Nat.div_lt_iff_lt_mul (lastPlace_pos q)).2
    unfold lastPlace
    rw [← Nat.pow_add]
    exact Nat.lt_of_lt_of_le Nat.lt_log2_self (Nat.pow_le_pow_right (by decide) (by omega))
  omega

end Double

/-- A double-precision number: not a number, an infinity, or `± units · 2 ^ -1074`. -/
inductive Double where
  | nan
  | infinity (negative : Bool)
  | finite (negative : Bool) (units : Nat) (representable : Double.Representable units)
  deriving DecidableEq

namespace Double

/-! ## 2. Rounding into the type -/

/-- The double nearest `± num / den` units; from the limit on it is an infinity. -/
def ofRatio (negative : Bool) (num den : Nat) : Double :=
  if h : nearest num den < limit then
    .finite negative (nearest num den) ⟨h, lastPlace_dvd_nearest num den⟩
  else
    .infinity negative

/-- The double nearest a natural number. -/
def ofNat (n : Nat) : Double :=
  ofRatio false (n * one) 1

instance (n : Nat) : OfNat Double n := ⟨ofNat n⟩

instance : Inhabited Double := ⟨0⟩

/-! ## 3. Arithmetic -/

/-- The opposite number; zero has two signs. -/
def neg : Double → Double
  | .nan => .nan
  | .infinity s => .infinity (!s)
  | .finite s u h => .finite (!s) u h

/-- The sum, rounded once. Opposite numbers add up to positive zero. -/
def add : Double → Double → Double
  | .finite s a _, .finite t b _ =>
    if s = t then ofRatio s (a + b) 1
    else if a < b then ofRatio t (b - a) 1
    else ofRatio (s && a != b) (a - b) 1
  | .infinity s, .infinity t => if s = t then .infinity s else .nan
  | .nan, _ => .nan
  | _, .nan => .nan
  | .infinity s, .finite .. => .infinity s
  | .finite .., .infinity t => .infinity t

/-- The difference, rounded once. -/
def sub (x y : Double) : Double :=
  add x (neg y)

/-- The product, rounded once. -/
def mul : Double → Double → Double
  | .finite s a _, .finite t b _ => ofRatio (s != t) (a * b) one
  | .infinity s, .infinity t => .infinity (s != t)
  | .infinity s, .finite t b _ => if b = 0 then .nan else .infinity (s != t)
  | .finite s a _, .infinity t => if a = 0 then .nan else .infinity (s != t)
  | .nan, _ => .nan
  | _, .nan => .nan

/-- Half of a number, rounded once. -/
def half : Double → Double
  | .nan => .nan
  | .infinity s => .infinity s
  | .finite s a _ => ofRatio s a 2

/-- The quotient, rounded once; only a number other than zero can be divided by zero. -/
def div : Double → Double → Double
  | .finite s a _, .finite t b _ =>
    if b = 0 then if a = 0 then .nan else .infinity (s != t)
    else ofRatio (s != t) (a * one) b
  | .infinity s, .finite t .. => .infinity (s != t)
  | .finite s .., .infinity t => ofRatio (s != t) 0 1
  | .infinity _, .infinity _ => .nan
  | .nan, _ => .nan
  | _, .nan => .nan

/--
The square root, rounded once. The root of `n = 4 · units · 2 ^ 1074` is twice the wanted number of
units; it lies strictly between `t` and `t + 1` unless it is `t` itself, and no rounding boundary lies
strictly between the halves of these two.
-/
def sqrt : Double → Double
  | .nan => .nan
  | .infinity s => if s then .nan else .infinity false
  | .finite s u _ =>
    if s && u != 0 then .nan
    else
      let n := 4 * (u * one)
      let t := floorSqrt n
      if t * t = n then ofRatio s t 2 else ofRatio s (2 * t + 1) 4

/-- The number without its sign. -/
def abs : Double → Double
  | .nan => .nan
  | .infinity _ => .infinity false
  | .finite _ u h => .finite false u h

/-- The power of two with an exponent of `-1074` or more. -/
def powerOfTwo (exponent : Int) : Double :=
  ofRatio false (2 ^ (exponent + 1074).toNat) 1

instance : Add Double := ⟨add⟩
instance : Sub Double := ⟨sub⟩
instance : Mul Double := ⟨mul⟩
instance : Div Double := ⟨div⟩
instance : Neg Double := ⟨neg⟩

/-! ## 4. Order -/

/-- The place of a number on a line of integers; NaN has none. The two zeros share one place. -/
def rank : Double → Option Int
  | .nan => none
  | .infinity s => some (if s then -(limit : Int) else limit)
  | .finite s u _ => some (if s then -(u : Int) else u)

/-- Both numbers have a place, and the first lies before the second. -/
def lt (x y : Double) : Prop :=
  ∃ i ∈ x.rank, ∃ j ∈ y.rank, i < j

/-- Both numbers have a place, and the first does not lie behind the second. -/
def le (x y : Double) : Prop :=
  ∃ i ∈ x.rank, ∃ j ∈ y.rank, i ≤ j

instance : LT Double := ⟨lt⟩
instance : LE Double := ⟨le⟩

instance decideLt (x y : Double) : Decidable (x < y) :=
  match hx : x.rank, hy : y.rank with
  | some i, some j =>
    if h : i < j then isTrue ⟨i, hx, j, hy, h⟩
    else isFalse fun ⟨i', hi, j', hj, hlt⟩ => by
      have h1 : i = i' := Option.some.inj (hx.symm.trans hi)
      have h2 : j = j' := Option.some.inj (hy.symm.trans hj)
      exact h (h1 ▸ h2 ▸ hlt)
  | none, _ => isFalse fun ⟨_, hi, _⟩ => by simp [hx] at hi
  | some _, none => isFalse fun ⟨_, _, _, hj, _⟩ => by simp [hy] at hj

instance decideLe (x y : Double) : Decidable (x ≤ y) :=
  match hx : x.rank, hy : y.rank with
  | some i, some j =>
    if h : i ≤ j then isTrue ⟨i, hx, j, hy, h⟩
    else isFalse fun ⟨i', hi, j', hj, hle⟩ => by
      have h1 : i = i' := Option.some.inj (hx.symm.trans hi)
      have h2 : j = j' := Option.some.inj (hy.symm.trans hj)
      exact h (h1 ▸ h2 ▸ hle)
  | none, _ => isFalse fun ⟨_, hi, _⟩ => by simp [hx] at hi
  | some _, none => isFalse fun ⟨_, _, _, hj, _⟩ => by simp [hy] at hj

theorem lt_asymm {x y : Double} (h : x < y) : ¬ y < x := by
  obtain ⟨i, hi, j, hj, less⟩ := h
  rintro ⟨j', hj', i', hi', greater⟩
  cases Option.some.inj (hi.symm.trans hi')
  cases Option.some.inj (hj.symm.trans hj')
  exact Int.lt_asymm less greater

theorem lt_of_lt_of_le {x y z : Double} (h : x < y) (h' : y ≤ z) : x < z := by
  obtain ⟨i, hi, j, hj, less⟩ := h
  obtain ⟨j', hj', k, hk, le⟩ := h'
  cases Option.some.inj (hj.symm.trans hj')
  exact ⟨i, hi, k, hk, Int.lt_of_lt_of_le less le⟩

theorem lt_of_le_of_lt {x y z : Double} (h : x ≤ y) (h' : y < z) : x < z := by
  obtain ⟨i, hi, j, hj, le⟩ := h
  obtain ⟨j', hj', k, hk, less⟩ := h'
  cases Option.some.inj (hj.symm.trans hj')
  exact ⟨i, hi, k, hk, Int.lt_of_le_of_lt le less⟩

/-- The lesser of two numbers; NaN gives way to the other, and of equals the second is taken. -/
def min (x y : Double) : Double :=
  if y = .nan ∨ x < y then x else y

/-- The greater of two numbers; NaN gives way to the other, and of equals the second is taken. -/
def max (x y : Double) : Double :=
  if y = .nan ∨ y < x then x else y

instance : Min Double := ⟨min⟩
instance : Max Double := ⟨max⟩

/-! ## 5. The hypotenuse -/

/--
The hypotenuse over two legs whose squares are within range, the longer one first. A first root `h` is
off by about half of `h ^ 2 - long ^ 2 - short ^ 2` over `h`. That difference is written with the
distance of `h` from the leg it is nearer to, so that the squares cancel before anything is rounded.
-/
def correctedRoot (long short : Double) : Double :=
  let h := sqrt (long * long + short * short)
  let excess :=
    if h ≤ 2 * short then
      let d := h - short
      long * (2 * d - long) + (d - 2 * (long - short)) * d
    else
      let d := h - long
      2 * d * (long - 2 * short) + ((4 * d - short) * short + d * d)
  h - excess / (2 * h)

/-- The hypotenuse over two finite legs, the longer one first. A leg that is too short to matter is
added to the other, and legs with squares out of range are measured in another unit. -/
def hypotOfLegs (long short : Double) : Double :=
  if short * powerOfTwo 54 ≤ long then long + short
  else if powerOfTwo 511 < long then
    correctedRoot (long * powerOfTwo (-600)) (short * powerOfTwo (-600)) * powerOfTwo 600
  else if short < powerOfTwo (-459) then
    correctedRoot (long * powerOfTwo 600) (short * powerOfTwo 600) * powerOfTwo (-600)
  else correctedRoot long short

/-- The length of the hypotenuse, without overflow on the way. An infinite leg makes it infinite even
beside NaN. -/
def hypot : Double → Double → Double
  | .infinity _, _ => .infinity false
  | _, .infinity _ => .infinity false
  | .nan, _ => .nan
  | _, .nan => .nan
  | x, y => if x.abs < y.abs then hypotOfLegs y.abs x.abs else hypotOfLegs x.abs y.abs

/-! ## 6. Whole numbers -/

/-- The nearest integer, halves away from zero, held within 64 bits; NaN counts as 0. -/
def roundToInt64 : Double → Int
  | .nan => 0
  | .infinity s => if s then -2 ^ (63 : Nat) else 2 ^ (63 : Nat) - 1
  | .finite s u _ =>
    let n := roundHalfUp u one
    if s then Max.max (-2 ^ (63 : Nat)) (-(n : Int)) else Min.min (2 ^ (63 : Nat) - 1) (n : Int)

/-! ## 7. The 64-bit pattern -/

/-- The bit pattern: a sign bit, 11 bits of exponent, 52 bits of fraction. -/
def toBits : Double → Nat
  | .nan => 0x7ff8000000000000
  | .infinity s => signBit s + 0x7ff0000000000000
  | .finite s u _ =>
    let e := u.log2 - 52
    signBit s + if u < 2 ^ (52 : Nat) then u else e * 2 ^ (52 : Nat) + u / 2 ^ e
where
  /-- The weight of a sign in the pattern. -/
  signBit (negative : Bool) : Nat := if negative then 2 ^ (63 : Nat) else 0

/-- The number with a given bit pattern. -/
def ofBits (bits : Nat) : Double :=
  let negative := bits / 2 ^ (63 : Nat) % 2 = 1
  let exponent := bits / 2 ^ (52 : Nat) % 2 ^ (11 : Nat)
  let fraction := bits % 2 ^ (52 : Nat)
  if exponent = 0x7ff then
    if fraction = 0 then .infinity negative else .nan
  else if exponent = 0 then ofRatio negative fraction 1
  else ofRatio negative ((2 ^ (52 : Nat) + fraction) * 2 ^ (exponent - 1)) 1

end Double

end FilterChips

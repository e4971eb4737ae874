/-
FilterChips.Number.Shortest — the text of a double: the fewest digits that read back, in positional
notation.

`Decimal.shortest` tries one digit, then two, and so on; of the two decimals of that many digits next
to the number it takes one that reads back as the same double, and of two such the nearer (a tie goes
up). Seventeen digits always suffice, so the search ends there.
-/
import FilterChips.Number.Decimal

namespace FilterChips

-- Powers are the core library's, also where Mathlib gives others.
attribute [local instance (high)] instPowNat

namespace Decimal

/-- How many digits a number has in base ten. -/
def digitCount (n : Nat) : Nat :=
  (Nat.toDigits 10 n).length

/--
The decimal exponent of a positive magnitude: `10 ^ (e - 1) ≤ v < 10 ^ e`. Scaled by `10 ^ 330`
every magnitude is at least one, so the count of its digits tells.
-/
def magnitude (units : Nat) : Int :=
  digitCount (units * 10 ^ (330 : Nat) / Double.one) - 330

/-- The two decimals of `n` digits next to a magnitude: the one below, the one above and whether the
one above is at least as near. The one above may have grown to a power of ten, which has one digit. -/
def neighbours (units n : Nat) : Decimal × Decimal × Bool :=
  let k := magnitude units - n
  let num := units * 10 ^ (-k).toNat
  let den := Double.one * 10 ^ k.toNat
  let q := num / den
  let above := if q + 1 = 10 ^ n then ⟨1, k + n⟩ else ⟨q + 1, k⟩
  (⟨q, k⟩, above, den ≤ 2 * (num % den))

/-- The decimal of `n` digits nearest a magnitude among those that read back as it. -/
def ofDigitCount? (units n : Nat) : Option Decimal :=
  let (below, above, nearerAbove) := neighbours units n
  let (first, second) := if nearerAbove then (above, below) else (below, above)
  [first, second].find? fun d => decide ((d.toDouble false).rank = some (units : Int))

/-- The decimal with the fewest digits that reads back as a magnitude. -/
def shortest (units : Nat) : Decimal :=
  if units = 0 then ⟨0, 0⟩
  else ((List.range 17).findSome? fun n => ofDigitCount? units (n + 1)).getD
    (neighbours units 17).1

/-- A decimal in positional notation, without an exponent and without a point when it is whole. -/
def toText (d : Decimal) : List Char :=
  let cs := Nat.toDigits 10 d.digits
  if 0 ≤ d.exponent then
    if d.digits = 0 then cs else cs ++ List.replicate d.exponent.toNat '0'
  else
    let places := (-d.exponent).toNat
    let padded := List.replicate (places + 1 - cs.length) '0' ++ cs
    let whole := padded.take (padded.length - places)
    let fraction := padded.drop (padded.length - places)
    whole ++ '.' :: fraction

end Decimal

namespace Double

/-- The text of a number: the fewest digits that read back, never an exponent. -/
def toText : Double → String
  | .nan => "NaN"
  | .infinity s => if s then "-inf" else "inf"
  | .finite s u _ => (if s then "-" else "") ++ String.ofList (Decimal.shortest u).toText

end Double

end FilterChips

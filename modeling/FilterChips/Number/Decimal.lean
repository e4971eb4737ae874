/-
FilterChips.Number.Decimal — decimal numbers: digits and a power of ten, and their reading from text.

* `Decimal.toDouble` is the double nearest a decimal.
* `Double.read?` reads a number: an optional sign, then `inf`, `infinity` or `nan` in any case, or
  digits with an optional point and an optional exponent. At least one digit stands before or after
  the point, and nothing may be left over.
-/
import FilterChips.Number.Double

namespace FilterChips

-- Powers are the core library's, also where Mathlib gives others.
attribute [local instance (high)] instPowNat

/-- The number `digits · 10 ^ exponent`. -/
structure Decimal where
  digits : Nat
  exponent : Int
  deriving DecidableEq

namespace Decimal

/--
The double nearest `± d`. A number from `10 ^ 400` on is infinite and one below `10 ^ -399` is zero,
so no power beyond these is ever formed.
-/
def toDouble (negative : Bool) (d : Decimal) : Double :=
  if d.digits = 0 ∨ d.exponent + d.digits.log2 < -400 then .ofRatio negative 0 1
  else if 400 < d.exponent then .infinity negative
  else if 0 ≤ d.exponent then
    .ofRatio negative (d.digits * 10 ^ d.exponent.toNat * Double.one) 1
  else
    .ofRatio negative (d.digits * Double.one) (10 ^ (-d.exponent).toNat)

/-- The number that a row of digits of a base up to 36 writes. -/
def ofDigits (base : Nat) (cs : List Char) : Nat :=
  cs.foldl (fun n c => base * n + digitValue c) 0
where
  /-- The value of a digit or, for bases above ten, of a letter. -/
  digitValue (c : Char) : Nat :=
    if c.isDigit then c.toNat - '0'.toNat else c.toLower.toNat - 'a'.toNat + 10

/-- An optional sign and what follows it; the flag tells a minus. -/
def splitSign : List Char → Bool × List Char
  | '-' :: cs => (true, cs)
  | '+' :: cs => (false, cs)
  | cs => (false, cs)

/-- The exponent after the digits: nothing, or `e`, an optional sign and digits to the end. -/
def readExponent? : List Char → Option Int
  | [] => some 0
  | c :: cs =>
    let (negative, ds) := splitSign cs
    if (c = 'e' ∨ c = 'E') ∧ ds ≠ [] ∧ ds.all Char.isDigit then
      let n : Int := ofDigits 10 ds
      some (if negative then -n else n)
    else none

/-- Digits with an optional point and an optional exponent. -/
def read? (cs : List Char) : Option Decimal := do
  let whole := cs.takeWhile Char.isDigit
  let rest := cs.dropWhile Char.isDigit
  let afterPoint := if rest.head? = some '.' then rest.tail else []
  let fraction := afterPoint.takeWhile Char.isDigit
  let tail := if rest.head? = some '.' then afterPoint.dropWhile Char.isDigit else rest
  if whole = [] ∧ fraction = [] then none
  else
    let exponent ← readExponent? tail
    some ⟨ofDigits 10 (whole ++ fraction), exponent - fraction.length⟩

end Decimal

namespace Double

/-- Reads the whole text as a number. -/
def read? (text : List Char) : Option Double :=
  let (negative, cs) := Decimal.splitSign text
  let word := String.ofList (cs.map Char.toLower)
  if word = "inf" ∨ word = "infinity" then some (.infinity negative)
  else if word = "nan" then some .nan
  else (Decimal.read? cs).map (·.toDouble negative)

end Double

end FilterChips

/-
FilterChips.Toml.Scalar — numbers, truth values, dates and times.

Integers have 64 bits, digits may be grouped with single underscores between them, and a decimal
number has no leading zero. A float that passes the largest double is refused. A date exists in the
calendar, and a minute may have a leap second.
-/
import FilterChips.Number.Decimal
import FilterChips.Toml.Value

namespace FilterChips

-- Powers are the core library's, also where Mathlib gives others.
attribute [local instance (high)] instPowNat

namespace Toml

/-! ## 1. Numbers -/

/-- Digits without the underscores between them; each underscore stands between two digits. -/
def ungroup? (isDigit : Char → Bool) : List Char → Option (List Char)
  | [] => none
  | [c] => if isDigit c then some [c] else none
  | c :: '_' :: cs => if isDigit c then (ungroup? isDigit cs).map (c :: ·) else none
  | c :: cs => if isDigit c then (ungroup? isDigit cs).map (c :: ·) else none

/-- The digits of a decimal integer: a single digit, or no zero in front. -/
def decimalDigits? (cs : List Char) : Option (List Char) := do
  let ds ← ungroup? Char.isDigit cs
  if ds.head? = some '0' ∧ cs.length ≠ 1 then none else some ds

/-- An integer that fits into 64 bits. -/
def integer? (n : Int) : Option Value :=
  if -2 ^ (63 : Nat) ≤ n ∧ n < 2 ^ (63 : Nat) then some (.integer n) else none

/-- A hexadecimal digit. -/
def isHexDigit (c : Char) : Bool :=
  c.isDigit || ('a' ≤ c && c ≤ 'f') || ('A' ≤ c && c ≤ 'F')

/-- An integer: decimal with an optional sign, or of base 16, 8 or 2. -/
def readInteger? (cs : List Char) : Option Value :=
  match cs with
  | '0' :: 'x' :: ds => do integer? (Decimal.ofDigits 16 (← ungroup? isHexDigit ds))
  | '0' :: 'o' :: ds =>
    do integer? (Decimal.ofDigits 8 (← ungroup? (fun c => '0' ≤ c && c ≤ '7') ds))
  | '0' :: 'b' :: ds =>
    do integer? (Decimal.ofDigits 2 (← ungroup? (fun c => c = '0' || c = '1') ds))
  | _ => do
    let (negative, ds) := Decimal.splitSign cs
    let n : Int := Decimal.ofDigits 10 (← decimalDigits? ds)
    integer? (if negative then -n else n)

/-- A float: a decimal integer with a fraction, an exponent or both, or an infinity or NaN. -/
def readFloat? (cs : List Char) : Option Value := do
  let (_, unsigned) := Decimal.splitSign cs
  if unsigned = "inf".toList ∨ unsigned = "nan".toList then
    (Double.read? cs).map .float
  else
    let isMark (c : Char) : Bool := c = '.' || c = 'e' || c = 'E'
    let whole := unsigned.takeWhile fun c => !isMark c
    let rest := unsigned.dropWhile fun c => !isMark c
    let _ ← decimalDigits? whole
    let exponent ← match rest with
      | '.' :: fs => do
        let fraction := fs.takeWhile fun c => !isMark c
        let _ ← ungroup? Char.isDigit fraction
        some (fs.dropWhile fun c => !isMark c)
      | _ => some rest
    match exponent with
    | [] => if rest = [] then none else some ()
    | c :: es =>
      if c = '.' then none
      else (ungroup? Char.isDigit (Decimal.splitSign es).2).map fun _ => ()
    let x ← Double.read? (cs.filter (· ≠ '_'))
    if x = .infinity false then none else some (.float x)

/-! ## 2. Dates and times -/

/-- A number of exactly so many digits at the beginning, and what follows it. -/
def readDigits? (count : Nat) (cs : List Char) : Option (Nat × List Char) :=
  let ds := cs.take count
  if ds.length = count ∧ ds.all Char.isDigit then some (Decimal.ofDigits 10 ds, cs.drop count)
  else none

/-- What follows a given character. -/
def expect? (c : Char) : List Char → Option (List Char)
  | d :: cs => if d = c then some cs else none
  | [] => none

/-- How many days a month has. -/
def daysIn (year month : Nat) : Nat :=
  if month = 2 then
    if year % 4 = 0 ∧ (year % 100 ≠ 0 ∨ year % 400 = 0) then 29 else 28
  else if month = 4 ∨ month = 6 ∨ month = 9 ∨ month = 11 then 30
  else 31

/-- What follows a date. -/
def afterDate? (cs : List Char) : Option (List Char) := do
  let (year, cs) ← readDigits? 4 cs
  let (month, cs) ← readDigits? 2 (← expect? '-' cs)
  let (day, cs) ← readDigits? 2 (← expect? '-' cs)
  if 1 ≤ month ∧ month ≤ 12 ∧ 1 ≤ day ∧ day ≤ daysIn year month then some cs else none

/-- What follows the fraction of a second, if there is one. -/
def afterFraction? : List Char → Option (List Char)
  | '.' :: cs =>
    if (cs.takeWhile Char.isDigit).isEmpty then none else some (cs.dropWhile Char.isDigit)
  | cs => some cs

/-- What follows a time. -/
def afterTime? (cs : List Char) : Option (List Char) := do
  let (hour, cs) ← readDigits? 2 cs
  let (minute, cs) ← readDigits? 2 (← expect? ':' cs)
  let (second, cs) ← readDigits? 2 (← expect? ':' cs)
  if hour ≤ 23 ∧ minute ≤ 59 ∧ second ≤ 60 then afterFraction? cs else none

/-- Whether the text is the distance to universal time, or empty. -/
def isOffset : List Char → Bool
  | [] => true
  | ['Z'] => true
  | ['z'] => true
  | c :: cs =>
    (c = '+' || c = '-') &&
      match readDigits? 2 cs with
      | some (hour, ':' :: rest) =>
        hour ≤ 23 && ((readDigits? 2 rest).any fun (minute, rest) => minute ≤ 59 && rest.isEmpty)
      | _ => false

/-- Whether the text is a time, with or without the distance to universal time. -/
def isTimeWithOffset (cs : List Char) : Bool :=
  (afterTime? cs).any isOffset

/-- A date, a time, or a date and a time with a `T` between them. -/
def readDate? (cs : List Char) : Option Value :=
  let ok :=
    match afterDate? cs with
    | some [] => true
    | some (c :: rest) => (c = 'T' || c = 't') && isTimeWithOffset rest
    | none => afterTime? cs = some []
  if ok then some .date else none

/-! ## 3. Scalars -/

/-- A scalar that is not quoted. -/
def scalar? (cs : List Char) : Option Value :=
  if cs = "true".toList then some (.boolean true)
  else if cs = "false".toList then some (.boolean false)
  else readDate? cs <|> readFloat? cs <|> readInteger? cs

end Toml

end FilterChips

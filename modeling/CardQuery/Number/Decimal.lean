import CardQuery.Number.Double

/-!
# Number/Decimal — decimals and the doubles nearest to them

`Double.ofDecimal` rounds a decimal to the nearest double.  `Double.shortest` goes the other way: of
the decimals that round to a finite number it gives one with the fewest digits, and of those the
nearest.  It tries one digit, then two, and so on; with any number of digits only the two neighbours
of the number on that decimal grid can be the answer.
-/

namespace CardQuery

/-- The decimal `digits * 10 ^ exponent`. -/
structure Decimal where
  digits : Nat
  exponent : Int
deriving DecidableEq, Repr

/-- How many decimal digits a number is written with. -/
def decimalLength (n : Nat) : Nat := (Nat.toDigits 10 n).length

namespace Double

/-- The double nearest to a decimal.  Far beyond the range of doubles the powers of ten are not
computed. -/
def ofDecimal (negative : Bool) (d : Decimal) : Double :=
  let top := decimalLength d.digits + d.exponent
  if d.digits == 0 || top < -400 then zero negative
  else if 400 < top then .infinite negative
  else if 0 ≤ d.exponent then ofRatio negative (d.digits * Nat.pow 10 d.exponent.toNat) 1
  else ofRatio negative d.digits (Nat.pow 10 (-d.exponent).toNat)

/-- A size divided by a power of ten, as a numerator and a denominator. -/
def overPowerOfTen (units : Nat) (exponent : Int) : Nat × Nat :=
  if 0 ≤ exponent then (units, unitsPerOne * Nat.pow 10 exponent.toNat)
  else (units * Nat.pow 10 (-exponent).toNat, unitsPerOne)

/-- Where the decimal point of a size stands: the size is below this power of ten, and not below
the power before it. -/
def pointOf (units : Nat) : Int :=
  let guess : Int := decimalLength units - decimalLength unitsPerOne
  let (num, den) := overPowerOfTen units guess
  if den ≤ num then guess + 1 else guess

/-- The two neighbours of a size on the grid of a power of ten, the nearer one first, of two that
are equally near the even one. -/
def neighbours (units : Nat) (exponent : Int) : List Decimal :=
  let (num, den) := overPowerOfTen units exponent
  let below := num / den
  let r := num % den
  if 2 * r < den || (2 * r == den && below % 2 == 0) then
    [⟨below, exponent⟩, ⟨below + 1, exponent⟩]
  else [⟨below + 1, exponent⟩, ⟨below, exponent⟩]

/-- The shortest decimal for a size, with `count` digits or up to `more` digits more.  Past them the
size is written in full, which always reads back. -/
def shortestFrom (x : Double) (point : Int) (count : Nat) : Nat → Decimal
  | 0 => ⟨x.units * Nat.pow 5 1074, -1074⟩
  | more + 1 =>
    match (neighbours x.units (point - count)).find? (fun d => ofDecimal x.isNegative d = x) with
    | some d => d
    | none => shortestFrom x point (count + 1) more

/-- **The shortest decimal that rounds to a finite number.** -/
def shortest (x : Double) : Decimal := shortestFrom x (pointOf x.units) 1 17

end Double

end CardQuery

/-!
# Number/Double — double-precision numbers, exactly

A finite number is a sign, a significand below `2 ^ 53` and a shift: its size is the significand
times `2 ^ shift`, counted in the smallest positive number `2 ^ -1074`.  Every operation here is
arithmetic on whole numbers, so a number can be compared, rounded to and written without loss.

`Double.ofRatio` is the number nearest to a quotient, the one with the even significand if two are
equally near.
-/

namespace CardQuery

/-- The significands and shifts that a double has room for.  The leading bit of the significand is
set unless the shift is zero, so that every number has one form. -/
def Double.Fits (significand shift : Nat) : Prop :=
  significand < 1 <<< 53 ∧ shift ≤ 2045 ∧ (1 <<< 52 ≤ significand ∨ shift = 0)

instance (significand shift : Nat) : Decidable (Double.Fits significand shift) :=
  inferInstanceAs (Decidable (_ ∧ _ ∧ _))

/-- A number of double precision. -/
inductive Double where
  | nan
  | infinite (negative : Bool)
  | finite (negative : Bool) (significand shift : Nat) (fits : Double.Fits significand shift)
deriving DecidableEq

/-- A quotient rounded to the nearest whole number, a half to the even one. -/
def roundDiv (num den : Nat) : Nat :=
  let q := num / den
  let r := num % den
  if 2 * r < den then q else if den < 2 * r then q + 1 else q + q % 2

namespace Double

/-- How many of the smallest positive number make one. -/
def unitsPerOne : Nat := 1 <<< 1074

/-- The number with a given significand and shift.  A significand that rounding carried up to
`2 ^ 53` is halved, and what has no room left is infinite. -/
def ofParts (negative : Bool) (significand shift : Nat) : Double :=
  if h : Fits significand shift then .finite negative significand shift h
  else if h : significand = 1 <<< 53 ∧ Fits (1 <<< 52) (shift + 1) then
    .finite negative (1 <<< 52) (shift + 1) h.2
  else .infinite negative

/-- **The number nearest to a quotient.** -/
def ofRatio (negative : Bool) (num den : Nat) : Double :=
  let units := num * unitsPerOne
  let shift := (units / den).log2 - 52
  ofParts negative (roundDiv units (den <<< shift)) shift

/-- Zero, with a sign. -/
def zero (negative : Bool) : Double := ofParts negative 0 0

/-- The number nearest to a whole number. -/
def ofInt (n : Int) : Double := ofRatio (n < 0) n.natAbs 1

/-- A number, unless it is infinite. -/
def unlessInfinite : Double → Option Double
  | .infinite _ => none
  | x => some x

/-- The number nearest to a whole number, if that is finite. -/
def ofInt? (n : Int) : Option Double := (ofInt n).unlessInfinite

/-- Whether a number is finite. -/
def isFinite : Double → Bool
  | .finite .. => true
  | _ => false

/-- The size of a finite number, in the smallest positive number. -/
def units : Double → Nat
  | .finite _ significand shift _ => significand <<< shift
  | _ => 0

/-- The sign of a number. -/
def isNegative : Double → Bool
  | .nan => false
  | .infinite negative => negative
  | .finite negative .. => negative

/-- A finite number, in the smallest positive number and with its sign. -/
def signedUnits (x : Double) : Int := if x.isNegative then -(x.units : Int) else x.units

/-- How two numbers compare: the two zeros are equal, and nothing compares with a NaN. -/
def order? : Double → Double → Option Ordering
  | .nan, _ | _, .nan => none
  | .infinite a, .infinite b => some (if a == b then .eq else if a then .lt else .gt)
  | .infinite a, .finite .. => some (if a then .lt else .gt)
  | .finite .., .infinite b => some (if b then .gt else .lt)
  | x@(.finite ..), y@(.finite ..) => some (compare x.signedUnits y.signedUnits)

/-- Whether two numbers are equal in value. -/
def same (x y : Double) : Bool := x.order? y == some .eq

/-- The whole number that a number is. -/
def toInt? : Double → Option Int
  | x@(.finite ..) =>
    if x.units % unitsPerOne == 0 then some (x.signedUnits / unitsPerOne) else none
  | _ => none

end Double

end CardQuery

import CardQuery.Number.Decimal
import CardQuery.Text.Blank

/-!
# Number/Notation — numbers as text

A number is written with its shortest digits.  A `Layout` says which decimal exponents are written
out with a decimal point; the others are written with an exponent.  There are two layouts:
`Layout.plain` for messages and `Layout.json` for documents.
-/

namespace CardQuery

/-- How the digits of a number are laid out. -/
structure Layout where
  /-- The least decimal exponent that is written out. -/
  lowest : Int
  /-- The greatest decimal exponent that is written out. -/
  highest : Int
  /-- The least number of digits of an exponent. -/
  exponentWidth : Nat

/-- Messages write out exponents from -4 to 15 and give other exponents two digits. -/
def Layout.plain : Layout := ⟨-4, 15, 2⟩

/-- Documents write out exponents from -5 to 15. -/
def Layout.json : Layout := ⟨-5, 15, 1⟩

/-- The digits of a decimal without the zeros at their end, and the place of the decimal point. -/
def Decimal.figures (d : Decimal) : List Char × Int :=
  let ds := Nat.toDigits 10 d.digits
  (Text.dropTail (· == '0') ds, ds.length + d.exponent)

/-- Digits with the decimal point written out: at least one digit stands on each side of it. -/
def positional (ds : List Char) (point : Int) : List Char :=
  if point ≤ 0 then '0' :: '.' :: List.replicate (-point).toNat '0' ++ ds
  else
    let n := point.toNat
    if ds.length ≤ n then ds ++ List.replicate (n - ds.length) '0' ++ ['.', '0']
    else ds.take n ++ '.' :: ds.drop n

/-- Digits with an exponent: one digit stands before the decimal point. -/
def scientific (width : Nat) (ds : List Char) (point : Int) : List Char :=
  let e := point - 1
  let es := Nat.toDigits 10 e.natAbs
  ds.take 1 ++ (if ds.length ≤ 1 then [] else '.' :: ds.drop 1)
    ++ 'e' :: (if e < 0 then '-' else '+') :: List.replicate (width - es.length) '0' ++ es

/-- A finite number in a layout. -/
def Layout.write (l : Layout) (x : Double) : List Char :=
  let (ds, point) := if x.units == 0 then (['0'], 1) else x.shortest.figures
  let size :=
    if l.lowest ≤ point - 1 && point - 1 ≤ l.highest then positional ds point
    else scientific l.exponentWidth ds point
  if x.isNegative then '-' :: size else size

/-- A number as messages write it. -/
def Double.text : Double → String
  | .nan => "nan"
  | .infinite negative => if negative then "-inf" else "inf"
  | x => String.ofList (Layout.plain.write x)

end CardQuery

import CardQuery.Number.Decimal
import CardQuery.Text.Blank
import CardQuery.Text.Digit

/-!
# Number/Numeral — reading numbers

Numerals are read in the digits of any script.  Single underscores may stand between digits, and
white space around the whole.

* `readDouble?` reads a decimal with an optional fraction and exponent, or a word for an infinite
  number or a NaN.
* `readInteger?` reads a whole number of at most 4300 digits.
* `isPlainNumeral` and `firstPlainNumeral?` know the plain form: an optional minus sign, digits and
  an optional fraction.
-/

namespace CardQuery

open Text

/-- The digits at the head of a text, and the rest. -/
def spanDigits (s : List Char) : List Char × List Char := s.span isDigit

/-- A text without its underscores, if each of them stands between two digits.  `before` says
whether a digit stands right before. -/
def dropUnderscores : Bool → List Char → Option (List Char)
  | _, [] => some []
  | before, '_' :: rest =>
    if before && rest.head?.any isDigit then dropUnderscores false rest else none
  | _, c :: rest => (dropUnderscores (isDigit c) rest).map (c :: ·)

/-- An optional sign, and the rest. -/
def spanSign : List Char → Bool × List Char
  | '-' :: rest => (true, rest)
  | '+' :: rest => (false, rest)
  | rest => (false, rest)

/-- The value of an exponent mark with its digits; no mark is the exponent zero. -/
def readExponent? : List Char → Option Int
  | [] => some 0
  | c :: rest =>
    let (negative, ds) := spanSign rest
    if (c == 'e' || c == 'E') && !ds.isEmpty && ds.all isDigit then
      let n : Int := readDigits 0 ds
      some (if negative then -n else n)
    else none

/-- An unsigned decimal with an optional fraction and exponent. -/
def readDecimal? (s : List Char) : Option Decimal :=
  let (whole, rest) := spanDigits s
  let (fraction, rest) :=
    match rest with
    | '.' :: rest => spanDigits rest
    | rest => ([], rest)
  if whole.isEmpty && fraction.isEmpty then none
  else (readExponent? rest).map fun e =>
    ⟨readDigits (readDigits 0 whole) fraction, e - fraction.length⟩

/-- A double: an optional sign and a decimal or a word. -/
def readDouble? (s : String) : Option Double := do
  let cs ← dropUnderscores false (trimBy isNumeralPadding s.toList)
  let (negative, body) := spanSign cs
  let word := String.ofList (body.map Char.toLower)
  if word == "inf" || word == "infinity" then return .infinite negative
  if word == "nan" then return .nan
  return Double.ofDecimal negative (← readDecimal? body)

/-- A whole number. -/
def readInteger? (s : String) : Option Int := do
  let (negative, body) := spanSign (trimBy isNumeralPadding s.toList)
  let ds ← dropUnderscores false body
  guard (!ds.isEmpty && ds.all isDigit && ds.length ≤ 4300)
  let n : Int := readDigits 0 ds
  return if negative then -n else n

/-- Digits and an optional fraction at the head of a text, and the rest. -/
def spanUnsigned? (s : List Char) : Option (List Char × List Char) :=
  match spanDigits s with
  | ([], _) => none
  | (whole, '.' :: rest) =>
    match spanDigits rest with
    | ([], _) => some (whole, '.' :: rest)
    | (fraction, rest') => some (whole ++ '.' :: fraction, rest')
  | found => some found

/-- A plain numeral at the head of a text. -/
def plainNumeralAt? : List Char → Option (List Char)
  | '-' :: rest => (spanUnsigned? rest).map ('-' :: ·.1)
  | s => (spanUnsigned? s).map (·.1)

/-- The first plain numeral in a text. -/
def firstPlainNumeral? : List Char → Option (List Char)
  | [] => none
  | c :: rest =>
    match plainNumeralAt? (c :: rest) with
    | some numeral => some numeral
    | none => firstPlainNumeral? rest

/-- Whether a text is digits with an optional fraction, or a fraction alone. -/
def isUnsignedNumeral : List Char → Bool
  | '.' :: fraction => !fraction.isEmpty && fraction.all isDigit
  | s => (spanUnsigned? s).any (·.2.isEmpty)

/-- Whether a text is a plain numeral, which may also start with its decimal point. -/
def isPlainNumeral : List Char → Bool
  | '-' :: rest => isUnsignedNumeral rest
  | s => isUnsignedNumeral s

end CardQuery

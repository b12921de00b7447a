import CardQuery.Json.Access
import CardQuery.Number.Numeral
import CardQuery.Text.Piece

/-!
# Card/Stat — the numbers on a card

Stats such as the power of a creature are printed as texts: a number, a star for a number that
varies, a sum such as `1+*`, or a letter.  `statOf` gives the number of a stat: zero if it has a
star, else the first numeral in it.  `floatOf` gives the number that a text writes as a whole.

A value that gives no number is no fault, but a whole number that no double is near to is one.
-/

namespace CardQuery

/-- The double nearest to a whole number. -/
def doubleOf (n : Int) : Except Fault Double := (Double.ofInt? n).elim (.error .tooLarge) .ok

/-- The number that a value is or writes. -/
def floatOf : Json → Except Fault (Option Double)
  | .bool b => .ok (some (Double.ofInt (if b then 1 else 0)))
  | .int n => (doubleOf n).map some
  | .double x => .ok (some x)
  | .string s => .ok (readDouble? s)
  | .null | .array _ | .object _ => .ok none

/-- Whether a text has a star in it, or a collection a star among its items. -/
def hasStar : Json → Except Fault Bool
  | .string s => .ok (s.toList.contains '*')
  | .array items => .ok (items.any ((Json.string "*").same ·))
  | .object members => .ok (Json.find? "*" members).isSome
  | _ => .error .wrongKind

/-- The number that a numeral writes. -/
def numberOfNumeral (s : String) : Except Fault Double :=
  (readDouble? s).elim (.error (.badValue (.notNumber s))) .ok

/-- The number of a printed text: the first numeral in it. -/
def firstNumber (s : String) : Except Fault (Option Double) :=
  match firstPlainNumeral? s.toList with
  | some numeral => (numberOfNumeral (String.ofList numeral)).map some
  | none => .ok none

/-- The number of a stat. -/
def statOf : Json → Except Fault (Option Double)
  | .null => .ok none
  | .bool b => .ok (some (Double.ofInt (if b then 1 else 0)))
  | .int n => (doubleOf n).map some
  | .double x => .ok (some x)
  | j => do
    if ← hasStar j then return some (Double.zero false)
    match j with
    | .string s => firstNumber s
    | _ => throw .wrongKind

/-- A stat as it is printed. -/
def statText : Json → Json
  | .null => .null
  | j => .string j.text

/-- A number that may be missing. -/
def numberOrNull : Option Double → Json
  | some x => .double x
  | none => .null

/-- The year of a date of release, which is what its first four characters write. -/
def yearOf (releasedAt : Json) : Except Fault (Option Double) :=
  if releasedAt.isTruthy then
    match releasedAt with
    | .string s => floatOf (.string (String.ofList (s.toList.take 4)))
    | .array _ => .ok none
    | _ => .error .wrongKind
  else .ok none

end CardQuery

import CardQuery.Json.Basic
import CardQuery.Number.Numeral
import CardQuery.Text.Piece

/-!
# Json/Reader — reading a document

`Json.read?` reads a whole text as one JSON value, by the letter of the format: no trailing commas,
no bare control characters in strings, no half of a surrogate pair.  Whole numbers of any size are
kept exactly.

`Json.load?` reads a stored document.  There a whole number outside the 64-bit ranges becomes the
nearest double, a number beyond the range of doubles is refused, and so is nesting past 1024 levels.

The readers carry a bound on the depth of their calls.  The length of the text is always enough,
since every nested call comes after a character was read.
-/

namespace CardQuery.Json

/-- White space between the parts of a document. -/
def skipBlanks (s : List Char) : List Char := s.dropWhile Text.isGap

/-- The value of a hexadecimal digit. -/
def hexValue? (c : Char) : Option Nat :=
  if c.isDigit then some (c.toNat - 48)
  else if 'a' ≤ c && c ≤ 'f' then some (c.toNat - 87)
  else if 'A' ≤ c && c ≤ 'F' then some (c.toNat - 55)
  else none

/-- Four hexadecimal digits, and the rest. -/
def readHex4? : List Char → Option (Nat × List Char)
  | a :: b :: c :: d :: rest => do
    return ((((← hexValue? a) * 16 + (← hexValue? b)) * 16 + (← hexValue? c)) * 16
      + (← hexValue? d), rest)
  | _ => none

/-- The character after `\u`: four digits, or two times four for a surrogate pair. -/
def readCodePoint? (s : List Char) : Option (Char × List Char) := do
  let (n, rest) ← readHex4? s
  if 0xD800 ≤ n && n < 0xDC00 then
    match rest with
    | '\\' :: 'u' :: rest =>
      let (m, rest) ← readHex4? rest
      guard (0xDC00 ≤ m && m < 0xE000)
      return (Char.ofNat (0x10000 + (n - 0xD800) * 0x400 + (m - 0xDC00)), rest)
    | _ => none
  else
    guard !(0xDC00 ≤ n && n < 0xE000)
    return (Char.ofNat n, rest)

/-- What a letter after a backslash stands for. -/
def simpleEscape? : Char → Option Char
  | '"' => some '"'
  | '\\' => some '\\'
  | '/' => some '/'
  | 'b' => some '\x08'
  | 'f' => some '\x0c'
  | 'n' => some '\n'
  | 'r' => some '\r'
  | 't' => some '\t'
  | _ => none

/-- The rest of a string up to its closing quote, and what comes after it. -/
def readString? : Nat → List Char → Option (List Char × List Char)
  | 0, _ => none
  | _ + 1, [] => none
  | _ + 1, '"' :: rest => some ([], rest)
  | fuel + 1, '\\' :: 'u' :: rest => do
    let (c, rest) ← readCodePoint? rest
    let (cs, rest) ← readString? fuel rest
    return (c :: cs, rest)
  | fuel + 1, '\\' :: e :: rest => do
    let c ← simpleEscape? e
    let (cs, rest) ← readString? fuel rest
    return (c :: cs, rest)
  | fuel + 1, c :: rest => do
    guard (c != '\\' && 0x20 ≤ c.toNat)
    let (cs, rest) ← readString? fuel rest
    return (c :: cs, rest)

/-- The whole part of a number, which has no zero before its first digit. -/
def readWhole? (s : List Char) : Option (List Char × List Char) :=
  match s.span Char.isDigit with
  | ([], _) => none
  | ('0' :: _ :: _, _) => none
  | found => some found

/-- The fraction of a number, if it has one. -/
def readFraction? : List Char → Option (List Char × List Char)
  | '.' :: rest =>
    match rest.span Char.isDigit with
    | ([], _) => none
    | found => some found
  | rest => some ([], rest)

/-- The exponent of a number, if it has one. -/
def readPower? : List Char → Option (Option Int × List Char)
  | c :: rest =>
    if c == 'e' || c == 'E' then
      let (negative, rest) := spanSign rest
      match rest.span Char.isDigit with
      | ([], _) => none
      | (ds, rest) =>
        let n : Int := Text.readDigits 0 ds
        some (some (if negative then -n else n), rest)
    else some (none, c :: rest)
  | [] => some (none, [])

/-- A number: it is whole unless it has a fraction or an exponent. -/
def readNumber? (s : List Char) : Option (Json × List Char) := do
  let (negative, body) := match s with | '-' :: rest => (true, rest) | _ => (false, s)
  let (whole, rest) ← readWhole? body
  let (fraction, rest) ← readFraction? rest
  let (power, rest) ← readPower? rest
  if fraction.isEmpty && power.isNone then
    let n : Int := Text.readDigits 0 whole
    return (.int (if negative then -n else n), rest)
  else
    let digits := Text.readDigits (Text.readDigits 0 whole) fraction
    return (.double (Double.ofDecimal negative ⟨digits, power.getD 0 - fraction.length⟩), rest)

mutual

/-- A value at the head of a text. -/
def readValue? : Nat → List Char → Option (Json × List Char)
  | 0, _ => none
  | fuel + 1, s =>
    match s with
    | '"' :: rest => (readString? (rest.length + 1) rest).map fun (cs, r) =>
      (.string (String.ofList cs), r)
    | '[' :: rest =>
      match skipBlanks rest with
      | ']' :: rest => some (.array [], rest)
      | rest => (readItems? fuel rest).map fun (items, r) => (.array items, r)
    | '\x7b' :: rest =>
      match skipBlanks rest with
      | '\x7d' :: rest => some (.object [], rest)
      | rest => (readMembers? fuel rest).map fun (members, r) => (ofMembers members, r)
    | 't' :: _ => (Text.after? ['t', 'r', 'u', 'e'] s).map (.bool true, ·)
    | 'f' :: _ => (Text.after? ['f', 'a', 'l', 's', 'e'] s).map (.bool false, ·)
    | 'n' :: _ => (Text.after? ['n', 'u', 'l', 'l'] s).map (.null, ·)
    | _ => readNumber? s

/-- The items of an array that is not empty, up to and with its closing bracket. -/
def readItems? : Nat → List Char → Option (List Json × List Char)
  | 0, _ => none
  | fuel + 1, s =>
    match readValue? fuel s with
    | none => none
    | some (item, rest) =>
      match skipBlanks rest with
      | ',' :: rest => (readItems? fuel (skipBlanks rest)).map fun (items, r) => (item :: items, r)
      | ']' :: rest => some ([item], rest)
      | _ => none

/-- The members of an object that is not empty, up to and with its closing brace. -/
def readMembers? : Nat → List Char → Option (List (String × Json) × List Char)
  | 0, _ => none
  | fuel + 1, s =>
    match s with
    | '"' :: rest =>
      match readString? (rest.length + 1) rest with
      | none => none
      | some (key, rest) =>
        match skipBlanks rest with
        | ':' :: rest =>
          match readValue? fuel (skipBlanks rest) with
          | none => none
          | some (value, rest) =>
            let member := (String.ofList key, value)
            match skipBlanks rest with
            | ',' :: rest =>
              (readMembers? fuel (skipBlanks rest)).map fun (members, r) => (member :: members, r)
            | '\x7d' :: rest => some ([member], rest)
            | _ => none
        | _ => none
    | _ => none

end

/-- **A text read as one JSON value.** -/
def read? (s : String) : Option Json :=
  let cs := s.toList
  match readValue? (2 * cs.length + 1) (skipBlanks cs) with
  | some (j, rest) => if (skipBlanks rest).isEmpty then some j else none
  | none => none

mutual

/-- How deep the arrays and objects of a value are nested. -/
def nesting : Json → Nat
  | .array items => nestingItems items + 1
  | .object members => nestingMembers members + 1
  | _ => 0

/-- The nesting of the deepest item. -/
def nestingItems : List Json → Nat
  | [] => 0
  | x :: xs => max (nesting x) (nestingItems xs)

/-- The nesting of the deepest member. -/
def nestingMembers : List (String × Json) → Nat
  | [] => 0
  | (_, v) :: rest => max (nesting v) (nestingMembers rest)

end

/-- Whether a whole number is in one of the 64-bit ranges. -/
def fits64 (n : Int) : Bool := -0x8000000000000000 ≤ n && n < 0x10000000000000000

mutual

/-- A value with its numbers as a stored document holds them. -/
def narrow? : Json → Option Json
  | .int n =>
    if fits64 n then some (.int n)
    else
      let x := Double.ofInt n
      if x.isFinite then some (.double x) else none
  | .double x => if x.isFinite then some (.double x) else none
  | .array items => (narrowItems? items).map .array
  | .object members => (narrowMembers? members).map .object
  | j => some j

/-- Items with their numbers as a stored document holds them. -/
def narrowItems? : List Json → Option (List Json)
  | [] => some []
  | x :: xs => do return (← narrow? x) :: (← narrowItems? xs)

/-- Members with their numbers as a stored document holds them. -/
def narrowMembers? : List (String × Json) → Option (List (String × Json))
  | [] => some []
  | (k, v) :: rest => do return (k, ← narrow? v) :: (← narrowMembers? rest)

end

/-- **A stored document read as one JSON value.** -/
def load? (s : String) : Option Json := do
  let j ← read? s
  guard (j.nesting ≤ 1024)
  narrow? j

end CardQuery.Json

import CardQuery.Json.Reader

/-!
# Json/Writer — writing a document

`Json.render` writes a value without any blank: members in their order, numbers with their shortest
digits, and in strings only the quote, the backslash and the control characters escaped.  A number
that is not finite is written as null.

`Json.store?` writes a document that is to be stored.  It refuses what a stored document has no room
for: whole numbers outside the 64-bit ranges, and nesting past 254 levels.
-/

namespace CardQuery.Json

/-- One character of a string. -/
def escapeChar (c : Char) : List Char :=
  if c == '"' then ['\\', '"']
  else if c == '\\' then ['\\', '\\']
  else if c == '\x08' then ['\\', 'b']
  else if c == '\x0c' then ['\\', 'f']
  else if c == '\n' then ['\\', 'n']
  else if c == '\r' then ['\\', 'r']
  else if c == '\t' then ['\\', 't']
  else if c.toNat < 0x20 then '\\' :: 'u' :: Text.hexDigits 4 c.toNat
  else [c]

/-- A string between its quotes. -/
def renderString (s : String) : List Char := '"' :: s.toList.flatMap escapeChar ++ ['"']

/-- A double in a document. -/
def renderDouble (x : Double) : List Char :=
  if x.isFinite then Layout.json.write x else ['n', 'u', 'l', 'l']

mutual

/-- A value without blanks. -/
def renderChars : Json → List Char
  | .null => ['n', 'u', 'l', 'l']
  | .bool true => ['t', 'r', 'u', 'e']
  | .bool false => ['f', 'a', 'l', 's', 'e']
  | .int n => (toString n).toList
  | .double x => renderDouble x
  | .string s => renderString s
  | .array items => '[' :: renderItems items ++ [']']
  | .object members => '\x7b' :: renderMembers members ++ ['\x7d']

/-- Items with commas between them. -/
def renderItems : List Json → List Char
  | [] => []
  | [x] => renderChars x
  | x :: xs => renderChars x ++ ',' :: renderItems xs

/-- Members with commas between them. -/
def renderMembers : List (String × Json) → List Char
  | [] => []
  | [(k, v)] => renderString k ++ ':' :: renderChars v
  | (k, v) :: rest => renderString k ++ ':' :: renderChars v ++ ',' :: renderMembers rest

end

/-- A value without blanks. -/
def render (j : Json) : String := String.ofList j.renderChars

mutual

/-- Whether every whole number in a value is in one of the 64-bit ranges. -/
def wholesFit : Json → Bool
  | .int n => fits64 n
  | .array items => wholesFitItems items
  | .object members => wholesFitMembers members
  | _ => true

/-- Whether every whole number in the items is in range. -/
def wholesFitItems : List Json → Bool
  | [] => true
  | x :: xs => wholesFit x && wholesFitItems xs

/-- Whether every whole number in the members is in range. -/
def wholesFitMembers : List (String × Json) → Bool
  | [] => true
  | (_, v) :: rest => wholesFit v && wholesFitMembers rest

end

/-- **A value written as a document to be stored.** -/
def store? (j : Json) : Option String :=
  if j.wholesFit && j.nesting ≤ 254 then some j.render else none

end CardQuery.Json

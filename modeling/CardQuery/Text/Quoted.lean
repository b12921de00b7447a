import CardQuery.Text.Printable

/-!
# Text/Quoted — a text as messages quote it

A quoted text stands between single quotes, or between double quotes when it holds a single quote
and no double one.  The backslash, the quote in use and every character without a visible form are
escaped: line feed, carriage return and tab by a letter, the others by their code point in
hexadecimal digits, two, four or eight of them.
-/

namespace CardQuery.Text

/-- A number in lower-case hexadecimal digits, at least `width` of them. -/
def hexDigits (width : Nat) (n : Nat) : List Char :=
  let ds := Nat.toDigits 16 n
  List.replicate (width - ds.length) '0' ++ ds

/-- The escape of a character by its code point. -/
def codeEscape (n : Nat) : List Char :=
  if n < 0x100 then '\\' :: 'x' :: hexDigits 2 n
  else if n < 0x10000 then '\\' :: 'u' :: hexDigits 4 n
  else '\\' :: 'U' :: hexDigits 8 n

/-- One character of a quoted text. -/
def quoteChar (quote c : Char) : List Char :=
  if c == quote || c == '\\' then ['\\', c]
  else if c == '\n' then ['\\', 'n']
  else if c == '\r' then ['\\', 'r']
  else if c == '\t' then ['\\', 't']
  else if isPrintable c then [c]
  else codeEscape c.toNat

/-- The quote that a text is put between. -/
def quoteFor (s : List Char) : Char := if s.contains '\'' && !s.contains '"' then '"' else '\''

/-- A text between quotes, with the characters escaped that need it. -/
def quoted (s : String) : String :=
  let q := quoteFor s.toList
  String.ofList (q :: s.toList.flatMap (quoteChar q) ++ [q])

end CardQuery.Text

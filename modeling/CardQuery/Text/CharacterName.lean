import CardQuery.Text.CharacterName.Alias
import CardQuery.Text.CharacterName.BasicPlane
import CardQuery.Text.CharacterName.OtherPlanes
import CardQuery.Text.Piece
import CardQuery.Text.Spans

/-!
# Text/CharacterName — characters by their names

A character is found by its name or by an alias of it, in capitals or in small letters.  The names of
Hangul syllables and of unified ideographs follow a rule, and these names have to be in capitals.  A
few other names end in the code point of their character.  All others stand in tables, which are
gone through from the first character on.

Tangut ideographs have no names here, and neither have sequences of several characters.
-/

namespace CardQuery.Text

/-! ## Names that follow a rule -/

/-- The number that hexadecimal digits in capitals write. -/
def readHex? (ds : List Char) : Option Nat :=
  ds.foldlM (fun n d => ("0123456789ABCDEF".toList.idxOf? d).map (16 * n + ·)) 0

/-- Unified ideographs. -/
def ideographSpans : Spans :=
  [(0x3400, 0x4DBF), (0x4E00, 0x9FFF), (0x20000, 0x2A6DF), (0x2A700, 0x2B738), (0x2B740, 0x2B81D),
    (0x2B820, 0x2CEA1), (0x2CEB0, 0x2EBE0), (0x30000, 0x3134A)]

/-- The unified ideograph with a name: four or five digits of its code point end it. -/
def ideographNamed? (name : List Char) : Option Nat := do
  let ds ← after? "CJK UNIFIED IDEOGRAPH-".toList name
  if ds.length = 4 || ds.length = 5 then (readHex? ds).filter ideographSpans.contains else none

/-- The sounds that a Hangul syllable may begin with. -/
def leadingSounds : List String :=
  ["G", "GG", "N", "D", "DD", "R", "M", "B", "BB", "S", "SS", "", "J", "JJ", "C", "K", "T", "P", "H"]

/-- The vowels of Hangul syllables. -/
def vowelSounds : List String :=
  ["A", "AE", "YA", "YAE", "EO", "E", "YEO", "YE", "O", "WA", "WAE", "OE", "YO", "U", "WEO", "WE",
    "WI", "YU", "EU", "YI", "I"]

/-- The sounds that a Hangul syllable may end in. -/
def trailingSounds : List String :=
  ["", "G", "GG", "GS", "N", "NJ", "NH", "D", "L", "LG", "LM", "LB", "LS", "LT", "LP", "LH", "M",
    "B", "BS", "S", "SS", "NG", "J", "C", "K", "T", "P", "H"]

/-- The Hangul syllables, in the order of their code points. -/
def syllables : List String :=
  leadingSounds.flatMap fun l => vowelSounds.flatMap fun v => trailingSounds.map (l ++ v ++ ·)

/-- The Hangul syllable with a name. -/
def syllableNamed? (name : List Char) : Option Nat := do
  let sounds ← after? "HANGUL SYLLABLE ".toList name
  (syllables.idxOf? (String.ofList sounds)).map (0xAC00 + ·)

/-- Names that end in the code point of their character, by what they begin with. -/
def codedNames : List (String × Spans) :=
  [("CJK COMPATIBILITY IDEOGRAPH-", [(0xF900, 0xFA6D), (0xFA70, 0xFAD9), (0x2F800, 0x2FA1D)]),
    ("KHITAN SMALL SCRIPT CHARACTER-", [(0x18B00, 0x18CD5)]),
    ("NUSHU CHARACTER-", [(0x1B170, 0x1B2FB)])]

/-- The character with a name that ends in its code point, written without a leading zero. -/
def codedNamed? (name : List Char) : Option Nat :=
  codedNames.findSome? fun (start, spans) => do
    let ds ← after? start.toList name
    if ds.head? = some '0' then none else (readHex? ds).filter spans.contains

/-! ## Names in tables -/

/-- The words of a name, from those of the name before it and the entry of a table: a digit says with
how many of those it begins, and its other words follow. -/
def wordsOf (before : List String) (entry : String) : List String :=
  match entry.toList with
  | [] => []
  | kept :: others => before.take (kept.toNat - '0'.toNat) ++ (String.ofList others).splitOn " "

/-- The code point at which a name stands among entries for successive code points. -/
def findIn (name before : List String) (code : Nat) : List String → Option Nat
  | [] => none
  | entry :: rest =>
    if entry.isEmpty then findIn name before (code + 1) rest
    else
      let this := wordsOf before entry
      if this == name then some code else findIn name this (code + 1) rest

/-- The character with a name in a table. -/
def findInRuns (name : List String) (runs : List (Nat × List String)) : Option Nat :=
  runs.findSome? fun (first, lines) => findIn name [] first (lines.flatMap (·.splitOn ","))

/-- **The code point of the character with a name.** -/
def characterNamed? (name : String) : Option Nat :=
  let capitals := name.toList.map Char.toUpper
  let words := (String.ofList capitals).splitOn " "
  ideographNamed? name.toList <|> syllableNamed? name.toList <|> codedNamed? capitals
    <|> findInRuns words basicPlaneNames <|> findInRuns words otherPlaneNames
    <|> findInRuns words aliasRuns

end CardQuery.Text

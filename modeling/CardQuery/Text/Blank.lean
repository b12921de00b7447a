import CardQuery.Text.Spans

/-!
# Text/Blank — white space

Three sets of blank characters are told apart.  `isBlank` is every character with the White_Space
or separator reading that a pattern's `\s` and the trimming of a text go by.  `isGap` is the four
characters that may stand between two tokens of a query.  `isNumeralPadding` is the blanks allowed
around a numeral, which leave out the four information separators.
-/

namespace CardQuery.Text

/-- Every blank character. -/
def blankSpans : Spans :=
  [(0x9, 0xD), (0x1C, 0x20), (0x85, 0x85), (0xA0, 0xA0), (0x1680, 0x1680), (0x2000, 0x200A),
    (0x2028, 0x2029), (0x202F, 0x202F), (0x205F, 0x205F), (0x3000, 0x3000)]

/-- Whether a character is white space. -/
def isBlank (c : Char) : Bool := blankSpans.contains c.toNat

/-- Whether a character may separate two tokens. -/
def isGap (c : Char) : Bool := c == ' ' || c == '\t' || c == '\n' || c == '\r'

/-- Whether a blank may stand around a numeral: any blank but the information separators. -/
def isNumeralPadding (c : Char) : Bool := isBlank c && !(0x1C ≤ c.toNat && c.toNat ≤ 0x1F)

/-- A text without the characters of a class at its end. -/
def dropTail (p : Char → Bool) (s : List Char) : List Char := (s.reverse.dropWhile p).reverse

/-- A text without the characters of a class at its two ends. -/
def trimBy (p : Char → Bool) (s : List Char) : List Char := dropTail p (s.dropWhile p)

/-- A text without the white space at its two ends. -/
def trim (s : String) : String := String.ofList (trimBy isBlank s.toList)

/-- Whether a text holds nothing but white space. -/
def isBlankText (s : String) : Bool := s.toList.all isBlank

end CardQuery.Text

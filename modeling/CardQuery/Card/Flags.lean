import CardQuery.Card.Basic
import CardQuery.Flag
import CardQuery.Json.Access
import CardQuery.Text.Piece

/-!
# Card/Flags — which properties a card has

`Card.satisfies` decides a flag for a card, and `Card.hasFlag` decides it by its name in any case.  No
card has a property of an unknown name.
-/

namespace CardQuery

/-! ## Symbols of mana -/

/-- Whether a symbol begins here that has two halves: two colors, or colorless or two of any color
with a color. -/
def startsHybrid : List Char → Bool
  | '\x7b' :: a :: '/' :: b :: '\x7d' :: _ =>
    ['W', 'U', 'B', 'R', 'G', '2', 'C'].contains a && ['W', 'U', 'B', 'R', 'G'].contains b
  | _ => false

/-- Whether a symbol begins here that may be paid with life. -/
def startsPhyrexian : List Char → Bool
  | '\x7b' :: rest =>
    let symbol := rest.takeWhile (· != '\x7d')
    symbol.length < rest.length && (symbol == ['P'] || ['P', '/'].isPrefixOf symbol.reverse)
  | _ => false

/-- Whether a test succeeds somewhere in a text. -/
def somewhere (test : List Char → Bool) : List Char → Bool
  | [] => test []
  | c :: rest => test (c :: rest) || somewhere test rest

/-! ## Collections -/

/-- Whether a text is among the items of a collection, or stands in a text. -/
def Json.holds (collection : Json) (s : String) : Except Fault Bool :=
  match collection with
  | .string hay => .ok (Text.hasPiece hay s)
  | .array items => .ok (items.any ((Json.string s).same ·))
  | .object members => .ok (Json.find? s members).isSome
  | _ => .error .wrongKind

namespace Card

/-- A mark of a card. -/
def mark (c : Card) : Mark → Json
  | .reprint => c.reprint
  | .reserved => c.reserved
  | .promo => c.promo
  | .fullArt => c.fullArt
  | .digital => c.digital

/-- A text in lower case. -/
def lowered (j : Json) : Except Fault String := do return Text.lower (← j.asText)

/-- The number of colors of a card. -/
def colorCount (c : Card) : Except Fault Nat :=
  match c.colors with
  | some colors => .ok colors.size
  | none => .error .wrongKind

/-- The mana cost in upper case. -/
def raisedManaCost (c : Card) : Except Fault (List Char) := do
  return (Text.upper (← c.manaCost.asText)).toList

/-- Whether one of the type lines is that of a legendary creature or vehicle. -/
def leadsByType : List Json → Except Fault Bool
  | [] => .ok false
  | line :: rest => do
    let line ← lowered line
    if Text.hasPiece line "legendary"
        && ["creature", "vehicle", "spacecraft"].any (Text.hasPiece line) then return true
    leadsByType rest

/-- Whether one of the texts says that the card can lead a deck. -/
def leadsByText : List Json → Except Fault Bool
  | [] => .ok false
  | text :: rest => do
    if Text.hasPiece (← lowered text) "can be your commander" then return true
    leadsByText rest

/-- Whether a card can lead a deck. -/
def canLead (c : Card) : Except Fault Bool := do
  let lines := c.typeLine :: (← c.faceTypeLines.items)
  let texts := c.oracleText :: (← c.faceOracleTexts.items)
  if ← leadsByType lines then return true
  leadsByText texts

/-- Whether a card is a creature without rules. -/
def isVanilla (c : Card) : Except Fault Bool := do
  if Text.hasPiece (← lowered c.typeLine) "creature" then
    return Text.isBlankText (← c.oracleText.asText)
  return false

/-- **Whether a card has a property.** -/
def satisfies (c : Card) : Flag → Except Fault Bool
  | .marked m => .ok (c.mark m).isTruthy
  | .finish name => c.finishes.holds name
  | .layout names => .ok (names.any fun name => c.layout.same (.string name))
  | .types words => do
    let line ← lowered c.typeLine
    return words.any (Text.hasPiece line)
  | .commander => c.canLead
  | .vanilla => c.isVanilla
  | .manyColors => do return 1 < (← c.colorCount)
  | .oneColor => do return (← c.colorCount) == 1
  | .noColor => .ok ((c.colors.getD .empty) = .empty)
  | .hybrid => do return somewhere startsHybrid (← c.raisedManaCost)
  | .phyrexian => do return somewhere startsPhyrexian (← c.raisedManaCost)

/-- Whether a card has the property of a name. -/
def hasFlag (c : Card) (name : String) : Except Fault Bool :=
  match Flag.named? (Text.lower name) with
  | some flag => c.satisfies flag
  | none => .ok false

end Card

end CardQuery

import CardQuery.Color
import CardQuery.Json.Basic

/-!
# Card/Basic — cards

A card as queries see it.  Apart from its colors, what a card holds is JSON: a well-formed record
gives texts, lists of texts, numbers and truth values, and null for what a card is without, but a
record may hold anything.

A card of several faces has the names, type lines and texts of its faces besides its own.
-/

namespace CardQuery

/-- A card. -/
structure Card where
  name : Json
  typeLine : Json
  oracleText : Json
  manaCost : Json
  artist : Json
  faceNames : Json
  faceTypeLines : Json
  faceOracleTexts : Json
  keywords : Json
  games : Json
  finishes : Json
  colors : Option ColorSet
  colorIdentity : Option ColorSet
  /-- The colors of the mana that a card makes; a card that makes none has no such set. -/
  producedMana : Option ColorSet
  manaValue : Json
  power : Json
  toughness : Json
  loyalty : Json
  defense : Json
  /-- The power as it is printed. -/
  powerText : Json
  toughnessText : Json
  loyaltyText : Json
  defenseText : Json
  year : Json
  releasedAt : Json
  rarity : Json
  setCode : Json
  collectorNumber : Json
  layout : Json
  lang : Json
  /-- The status of the card in each format. -/
  legalities : Json
  reserved : Json
  reprint : Json
  promo : Json
  fullArt : Json
  digital : Json

namespace Card

/-- A card of which nothing but the name is known. -/
def named (name : Json) : Card where
  name
  typeLine := .string ""
  oracleText := .string ""
  manaCost := .string ""
  artist := .string ""
  faceNames := .array []
  faceTypeLines := .array []
  faceOracleTexts := .array []
  keywords := .array []
  games := .array []
  finishes := .array []
  colors := some .empty
  colorIdentity := some .empty
  producedMana := none
  manaValue := .null
  power := .null
  toughness := .null
  loyalty := .null
  defense := .null
  powerText := .null
  toughnessText := .null
  loyaltyText := .null
  defenseText := .null
  year := .null
  releasedAt := .null
  rarity := .string ""
  setCode := .string ""
  collectorNumber := .string ""
  layout := .string "normal"
  lang := .string "en"
  legalities := .object []
  reserved := .bool false
  reprint := .bool false
  promo := .bool false
  fullArt := .bool false
  digital := .bool false

end Card

end CardQuery

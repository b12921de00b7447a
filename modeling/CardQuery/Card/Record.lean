import CardQuery.Card.Basic
import CardQuery.Card.Stat
import CardQuery.Json.Writer

/-!
# Card/Record — cards from records

`Card.ofRecord` makes a card of one object of a bulk data file.  What a card of several faces does
not say itself is taken from its faces: the texts of all faces are joined, and mana cost, artist and
stats are those of the front face.

Members are read in a fixed order, so that of several faults in a record always the same one shows.
-/

namespace CardQuery

namespace Json

/-- A member of an object, or a default if it is missing. -/
def getOr (j : Json) (key : String) (default : Json) : Except Fault Json := do
  return (find? key (← j.asMembers)).getD default

/-- A text that is to be joined with others. -/
def joinedText : Json → Except Fault String
  | .string s => .ok s
  | _ => .error .wrongKind

/-- Texts joined by a separator; anything but texts cannot be joined. -/
def join (separator : String) (parts : List Json) : Except Fault String := do
  return separator.intercalate (← parts.mapM joinedText)

/-- A value in lower case, empty if there is none. -/
def loweredText (j : Json) : Except Fault Json := do
  return .string (Text.lower (← (j.orElse (.string "")).asText))

/-- A collection as a list, empty if there is none. -/
def listed (j : Json) : Except Fault Json := do
  return .array (← (j.orElse (.array [])).items)

/-- A key of a table as a text. -/
def keyText : Json → String
  | .string s => s
  | j => j.render

/-- The table of pairs of a key and a value, from the pair with a number on. -/
def pairsFrom (index : Nat) (table : List (String × Json)) :
    List Json → Except Fault (List (String × Json))
  | [] => .ok table
  | pair :: rest => do
    match ← pair.items with
    | [key, value] =>
      if key.isKey then pairsFrom (index + 1) (put key.keyText value table) rest
      else throw .wrongKind
    | parts => throw (.badValue (.notPair index parts.length))

/-- A table, empty if there is none. -/
def tableOf (j : Json) : Except Fault Json :=
  if j.isTruthy then
    match j with
    | .object members => .ok (.object members)
    | j => do return .object (← pairsFrom 0 [] (← j.items))
  else .ok (.object [])

end Json

/-- The colors that a value lists; no value lists none. -/
def colorsOf : Json → Except Fault ColorSet
  | .null => .ok .empty
  | j => do return ColorSet.ofTexts ((← j.items).map Json.text)

/-- The first face; without faces it is an object without members. -/
def frontOf (faces : Json) : Except Fault Json :=
  if faces.isTruthy then
    match faces with
    | .array (front :: _) => .ok front
    | .string s => .ok (.string (String.ofList (s.toList.take 1)))
    | .object _ => .error (.missingKey "0")
    | _ => .error .wrongKind
  else .ok (.object [])

/-- The texts of the faces that have one, each on lines of its own. -/
def joinedTexts (faces : List Json) : Except Fault Json := do
  let texts ← faces.filterMapM fun face => do
    let text ← face.get "oracle_text"
    return if text.isTruthy then some text else none
  return .string (← Json.join "\n//\n" texts)

/-- The colors of all faces. -/
def joinedColors (faces : List Json) : Except Fault Json := do
  let colors ← faces.mapM fun face => do (← face.getOr "colors" (.array [])).items
  return .array colors.flatten

/-- A member of a record, or else of its front face. -/
def fromEither (raw front : Json) (key : String) : Except Fault Json := do
  match ← raw.get key with
  | .null => front.get key
  | j => return j

/-- The oracle text of a card, or else those of its faces. -/
def ownOrJoinedTexts (own : Json) (faces : List Json) : Except Fault Json :=
  if !own.isTruthy && !faces.isEmpty then joinedTexts faces else .ok own

/-- The colors of a card, or else those of its faces. -/
def ownOrJoinedColors (own : Json) (faces : List Json) : Except Fault Json :=
  match own with
  | .null => if faces.isEmpty then .ok .null else joinedColors faces
  | j => .ok j

/-- The type line of a card, or else those of its faces. -/
def ownOrJoinedLines (own : Json) (faces : List Json) : Except Fault Json :=
  if own.isTruthy then .ok own
  else do
    let lines ← faces.mapM (·.getOr "type_line" (.string ""))
    return .string (← Json.join " // " lines)

/-- The mana cost of a card, or else that of its front face. -/
def ownOrFrontCost (own front : Json) : Except Fault Json :=
  if own.isTruthy then .ok own else do return (← front.get "mana_cost").orElse (.string "")

/-- The name of a face, if it has one. -/
def faceName? (face : Json) : Except Fault (Option Json) := do
  if (← face.get "name").isTruthy then return some (← face.require "name") else return none

/-- The colors of the mana that a card makes, if it makes any. -/
def producedColors : Json → Except Fault (Option ColorSet)
  | .null => .ok none
  | j => do return some (← colorsOf j)

/-- A stat of a card or else of its front face: its number and its printed text. -/
def statFrom (raw front : Json) (key : String) : Except Fault (Json × Json) := do
  let value ← fromEither raw front key
  return (numberOrNull (← statOf value), statText value)

namespace Card

/-- **The card of a record.** -/
def ofRecord (raw : Json) : Except Fault Card := do
  let faces := (← raw.get "card_faces").orElse (.array [])
  let front ← frontOf faces
  let faces ← faces.items
  let oracleText ← ownOrJoinedTexts (← raw.get "oracle_text") faces
  let colors ← ownOrJoinedColors (← raw.get "colors") faces
  let produced ← raw.get "produced_mana"
  let name ← raw.require "name"
  let typeLine ← ownOrJoinedLines (← raw.get "type_line") faces
  let manaCost ← ownOrFrontCost (← raw.get "mana_cost") front
  let artist ← fromEither raw front "artist"
  let faceNames ← faces.filterMapM faceName?
  let faceTypeLines ← faces.mapM (·.getOr "type_line" (.string ""))
  let faceOracleTexts ← faces.mapM (·.getOr "oracle_text" (.string ""))
  let keywords ← (← raw.get "keywords").listed
  let games ← (← raw.get "games").listed
  let finishes ← (← raw.get "finishes").listed
  let colors ← colorsOf colors
  let colorIdentity ← colorsOf (← raw.get "color_identity")
  let producedMana ← producedColors produced
  let manaValue ← floatOf (← raw.get "cmc")
  let (power, powerText) ← statFrom raw front "power"
  let (toughness, toughnessText) ← statFrom raw front "toughness"
  let (loyalty, loyaltyText) ← statFrom raw front "loyalty"
  let (defense, defenseText) ← statFrom raw front "defense"
  let releasedAt ← raw.get "released_at"
  let year ← yearOf releasedAt
  let rarity ← (← raw.get "rarity").loweredText
  let setCode ← (← raw.get "set").loweredText
  let collectorNumber ← raw.get "collector_number"
  let layout ← raw.get "layout"
  let lang ← raw.get "lang"
  let legalities ← (← raw.get "legalities").tableOf
  let mark (key : String) : Except Fault Json := do return .bool (← raw.get key).isTruthy
  return {
    name
    typeLine
    oracleText := oracleText.orElse (.string "")
    manaCost
    artist := artist.orElse (.string "")
    faceNames := .array faceNames
    faceTypeLines := .array faceTypeLines
    faceOracleTexts := .array faceOracleTexts
    keywords
    games
    finishes
    colors := some colors
    colorIdentity := some colorIdentity
    producedMana
    manaValue := numberOrNull manaValue
    power
    toughness
    loyalty
    defense
    powerText
    toughnessText
    loyaltyText
    defenseText
    year := numberOrNull year
    releasedAt := releasedAt.orElse .null
    rarity
    setCode
    collectorNumber := .string (collectorNumber.orElse (.string "")).text
    layout := layout.orElse (.string "normal")
    lang := lang.orElse (.string "en")
    legalities
    reserved := ← mark "reserved"
    reprint := ← mark "reprint"
    promo := ← mark "promo"
    fullArt := ← mark "full_art"
    digital := ← mark "digital"
  }

end Card

end CardQuery

import CardQuery.Card.Flags
import CardQuery.Query.Basic
import CardQuery.Rarity

/-!
# Match — whether a card matches a query

`Query.matches` decides a query for a card.  Connectives look at their right operand only if the left
one has not settled them.  A comparison reads one attribute of the card and compares it by the rules
of the field's kind; the names and the oracle texts of all faces count besides those of the card.

On a well-formed card, a query that a person typed is always decided.  A stored query or a card
record may hold values of the wrong kind, and then a comparison can fail with the first fault that it
meets.
-/

namespace CardQuery

/-! ## Values -/

namespace Value

/-- What a value holds, as JSON; a set of colors is none. -/
def content? : Value → Option Json
  | text content => some content
  | number x => some (.double x)
  | keyword word => some (.string word)
  | colors _ => none
  | pattern p => some (.string p.source)

/-- What a value holds, in lower case. -/
def lowered (v : Value) : Except Fault String :=
  match v.content? with
  | some j => Card.lowered j
  | none => .error .noSuchPart

/-- A color as it is shown among what a set holds. -/
def shownColor (c : Color) : String :=
  let letter := String.singleton c.letter
  "<Color." ++ letter ++ ": " ++ Text.quoted letter ++ ">"

/-- What a value holds, as messages show it. -/
def shownContent : Value → String
  | colors set =>
    if set = .empty then "frozenset()"
    else "frozenset(\x7b" ++ ", ".intercalate (set.toList.map shownColor) ++ "\x7d)"
  | v => (v.content?.getD .null).display

end Value

/-- How two values are ordered, if they are of a kind that is: numbers by size and texts by their
characters.  The outcome is itself optional, as a NaN is a number that compares with none. -/
def Json.order? (a b : Json) : Option (Option Ordering) :=
  match a, b with
  | .string s, .string t => some (some (compareOfLessAndEq s t))
  | _, _ => do return (← a.quantity?).order? (← b.quantity?)

/-- Whether a comparison of two values holds.  Values of any kind may be equal or not, but only
ordered ones can be compared by order. -/
def CompareOp.holds (op : CompareOp) (a : Json) (b : Option Json) : Except Fault Bool :=
  match op with
  | .colon | .eq => .ok (b.any a.same)
  | .ne => .ok !(b.any a.same)
  | op =>
    match b.bind a.order? with
    | some outcome => .ok (op.admits outcome)
    | none => .error .wrongKind

/-- Whether a pattern matches in a value, which has to be a text. -/
def Pattern.search (p : Pattern) : Json → Except Fault Bool
  | .string s => .ok (p.matchesIn s)
  | _ => .error .wrongKind

/-- Whether a test succeeds on one of several values, tried in their order. -/
def anyOf (test : Json → Except Fault Bool) : List Json → Except Fault Bool
  | [] => .ok false
  | x :: rest => do if ← test x then return true else anyOf test rest

/-! ## Comparisons by kind -/

/-- Texts: `:` asks for a piece of the text and `=` for all of it, in any case. -/
def matchText (op : CompareOp) (value : Value) (content : Json) : Except Fault Bool :=
  match value, content with
  | .pattern _, .null => .ok (op == .ne)
  | .pattern p, content => do return (← p.search content) != (op == .ne)
  | _, .null => .ok (op == .ne)
  | value, content => do
    let needle ← value.lowered
    let hay ← Card.lowered content
    match op with
    | .colon => return Text.hasPiece hay needle
    | .eq => return hay == needle
    | _ => return hay != needle

/-- Texts out of a range: `:` and `=` both ask for all of the text. -/
def matchDiscrete (op : CompareOp) (value : Value) (content : Json) : Except Fault Bool :=
  match op, value, content with
  | .colon, .pattern p, content => matchText .colon (.pattern p) content
  | .colon, _, .null => .ok false
  | .colon, value, content => matchText .eq value content
  | op, value, content => matchText op value content

/-- Lists of texts: `:` asks for a piece of an item and `=` for a whole item. -/
def matchList (op : CompareOp) (value : Value) (content : Json) : Except Fault Bool := do
  let items := content.orElse (.array [])
  match value with
  | .pattern p => return (← anyOf p.search (← items.items)) != (op == .ne)
  | value =>
    let needle ← value.lowered
    let test (item : Json) : Except Fault Bool := do
      let hay ← Card.lowered item
      return if op = .colon then Text.hasPiece hay needle else hay == needle
    return (← anyOf test (← items.items)) != (op == .ne)

/-- Colors: a set is compared as a set, and a number with the number of colors.  A card that makes no
mana matches nothing. -/
def matchColor (field : Field) (op : CompareOp) (value : Value) (colors : Option ColorSet) :
    Except Fault Bool :=
  if colors.isNone && field = .produces then .ok false
  else
    let colors := colors.getD .empty
    match value with
    | .number x => op.holds (.int colors.size) (some (.double x))
    | .colors set => .ok (colors.compare set op)
    | value => .error (.notColors value.display)

/-- Numbers: a card without the number matches nothing. -/
def matchNumeric (op : CompareOp) (value : Value) (content : Json) : Except Fault Bool :=
  match content with
  | .null => .ok false
  | content => op.holds content value.content?

/-- Printed stats with a star: a card without the stat matches nothing. -/
def matchStar (op : CompareOp) (printed : Json) : Except Fault Bool :=
  match printed with
  | .null => .ok false
  | printed => do return (← printed.holds "*") != (op == .ne)

/-- Dates, whose texts compare in the order of the calendar: a card without a date matches nothing. -/
def matchDate (op : CompareOp) (value : Value) (content : Json) : Except Fault Bool :=
  if content.isTruthy then op.holds content value.content? else .ok false

/-- The rank of the rarity that a value names. -/
def rankOf (value : Value) : Except Fault Nat :=
  match value.content? with
  | some (.string s) =>
    match Rarity.ofName? s with
    | some r => .ok r.rank
    | none => .error (.missingKey value.shownContent)
  | some (.array _) | some (.object _) => .error .wrongKind
  | _ => .error (.missingKey value.shownContent)

/-- Rarities, in their order: a card of no known rarity matches nothing. -/
def matchRarity (op : CompareOp) (value : Value) (content : Json) : Except Fault Bool := do
  let name ← Card.lowered (content.orElse (.string ""))
  match Rarity.ofName? name with
  | none => return false
  | some r => return op.admits (some (compare r.rank (← rankOf value)))

/-- The statuses that a field of legalities asks for. -/
def Field.statuses : Field → List String
  | .banned => ["banned"]
  | .restricted => ["restricted"]
  | _ => ["legal", "restricted"]

/-- The status that a table gives a format; a format that is not in it has none. -/
def statusOf (table : Json) (value : Value) : Except Fault Json := do
  let members ← (table.orElse (.object [])).asMembers
  match value.content? with
  | some (.string format) => return (Json.find? format members).getD .null
  | some (.array _) | some (.object _) => throw .wrongKind
  | _ => return .null

/-- Legalities: the status of a format is one of those that the field asks for. -/
def matchLegality (field : Field) (op : CompareOp) (value : Value) (table : Json) :
    Except Fault Bool := do
  let status ← statusOf table value
  if !status.isKey then throw .wrongKind
  return (field.statuses.any fun s => status.same (.string s)) != (op == .ne)

/-- Properties: `not` and `!=` each turn the answer round. -/
def matchFlag (field : Field) (op : CompareOp) (value : Value) (c : Card) : Except Fault Bool := do
  match value.content? with
  | some (.string name) => return ((← c.hasFlag name) != (field == .not)) != (op == .ne)
  | _ => throw .noSuchPart

/-! ## Queries -/

namespace Card

/-- The printed text of a stat. -/
def printed (c : Card) : Field → Json
  | .power => c.powerText
  | .toughness => c.toughnessText
  | .loyalty => c.loyaltyText
  | .defense => c.defenseText
  | _ => .null

/-- What a card holds that a field is about. -/
def content (c : Card) : Field → Json
  | .name => c.name
  | .type => c.typeLine
  | .oracle => c.oracleText
  | .mana => c.manaCost
  | .artist => c.artist
  | .keyword => c.keywords
  | .game => c.games
  | .manaValue => c.manaValue
  | .power => c.power
  | .toughness => c.toughness
  | .loyalty => c.loyalty
  | .defense => c.defense
  | .year => c.year
  | .date => c.releasedAt
  | .rarity => c.rarity
  | .set => c.setCode
  | .number => c.collectorNumber
  | .layout => c.layout
  | .lang => c.lang
  | .format | .banned | .restricted => c.legalities
  | .color | .identity | .produces | .is | .not => .null

/-- The colors of a card that a field is about. -/
def colorsFor (c : Card) : Field → Option ColorSet
  | .identity => c.colorIdentity
  | .produces => c.producedMana
  | _ => c.colors

/-- Whether a test succeeds on a text of a card or on the same text of one of its faces. -/
def anyFace (own faces : Json) (test : Json → Except Fault Bool) : Except Fault Bool := do
  if ← test own then return true
  anyOf test (← faces.items)

/-- Whether a test succeeds on the name of a card or of one of its faces. -/
def anyName (c : Card) (test : Json → Except Fault Bool) : Except Fault Bool :=
  anyFace c.name c.faceNames test

/-- Whether a comparison holds for a card. -/
def holds (c : Card) (field : Field) (op : CompareOp) (value : Value) : Except Fault Bool :=
  match field, op, value with
  | .name, .ne, value => matchText .ne value c.name
  | .name, op, value => c.anyName (matchText op value)
  | .oracle, .ne, value => matchText .ne value c.oracleText
  | .oracle, op, value => anyFace c.oracleText c.faceOracleTexts (matchText op value)
  | field, op, value =>
    match field.isStat, value with
    | true, .keyword _ => matchStar op (c.printed field)
    | _, value =>
      match field.kind with
      | .text => matchText op value (c.content field)
      | .discrete => matchDiscrete op value (c.content field)
      | .list => matchList op value (c.content field)
      | .color => matchColor field op value (c.colorsFor field)
      | .numeric => matchNumeric op value (c.content field)
      | .date => matchDate op value (c.content field)
      | .rarity => matchRarity op value (c.content field)
      | .legality => matchLegality field op value (c.content field)
      | .flag => matchFlag field op value c

end Card

/-- **Whether a card matches a query.** -/
def Query.matches : Query → Card → Except Fault Bool
  | .and left right, c => do if ← left.matches c then right.matches c else return false
  | .or left right, c => do if ← left.matches c then return true else right.matches c
  | .not operand, c => do return !(← operand.matches c)
  | .compare field op value, c => c.holds field op value
  | .term content, c => do
    let needle ← Card.lowered content
    c.anyName fun name => do return Text.hasPiece (← Card.lowered name) needle
  | .pattern p, c => c.anyName p.search

/-- A value on its own is no query, so that no card matches it or fails to. -/
def Value.matches (v : Value) (_ : Card) : Except Fault Bool := .error (.notEvaluable v.kindName)

end CardQuery

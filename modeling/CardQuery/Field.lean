import CardQuery.Comparison
import CardQuery.Text.LowerCase
import CardQuery.Text.Quoted

/-!
# Field — the searchable fields of a card

Each field has a kind, which decides how its values are compared and with which operators, the
aliases that a query may name it by, and a label for messages and explanations.
-/

namespace CardQuery

/-- How the values of a field are compared. -/
inductive FieldKind where
  /-- Free text; `:` asks for a piece of it. -/
  | text
  /-- One of a range of texts; `:` asks for the whole of it. -/
  | discrete
  /-- A list of texts. -/
  | list
  /-- A set of colors. -/
  | color
  /-- A number that a card may be without. -/
  | numeric
  /-- A calendar date. -/
  | date
  /-- A rarity. -/
  | rarity
  /-- The legality of a card in a format. -/
  | legality
  /-- A property that a card has or has not. -/
  | flag
deriving DecidableEq, Repr

namespace FieldKind

/-- The name of a kind. -/
def name : FieldKind → String
  | text => "text"
  | discrete => "discrete"
  | list => "list"
  | color => "color"
  | numeric => "numeric"
  | date => "date"
  | rarity => "rarity"
  | legality => "legality"
  | flag => "flag"

/-- Whether the values of a kind are ordered. -/
def isOrdered : FieldKind → Bool
  | color | numeric | date | rarity => true
  | _ => false

/-- Whether a kind is compared by an operator: any kind by equality, an ordered one by all. -/
def admits (k : FieldKind) (op : CompareOp) : Bool := k.isOrdered || op.isEquality

/-- Whether values of a kind may be given as a pattern. -/
def takesPattern : FieldKind → Bool
  | text | discrete | list => true
  | _ => false

end FieldKind

/-- A searchable field. -/
inductive Field where
  | name | type | oracle | mana | artist | keyword | game | color | identity | produces | manaValue
  | power | toughness | loyalty | defense | year | date | rarity | set | number | layout | lang
  | format | banned | restricted | is | not
deriving DecidableEq, Repr

/-- What there is to know about a field. -/
structure FieldInfo where
  kind : FieldKind
  /-- The name of the field in stored queries. -/
  name : String
  /-- The names that a query may use. -/
  aliases : List String
  /-- The name in messages and explanations. -/
  label : String

namespace Field

/-- All fields. -/
def all : List Field :=
  [name, type, oracle, mana, artist, keyword, game, color, identity, produces, manaValue, power,
    toughness, loyalty, defense, year, date, rarity, set, number, layout, lang, format, banned,
    restricted, is, not]

/-- The description of a field. -/
def info : Field → FieldInfo
  | name => ⟨.text, "name", ["name", "n"], "name"⟩
  | type => ⟨.text, "type", ["type", "t"], "type"⟩
  | oracle => ⟨.text, "oracle", ["oracle", "o"], "oracle text"⟩
  | mana => ⟨.text, "mana", ["mana", "m"], "mana cost"⟩
  | artist => ⟨.text, "artist", ["artist", "a"], "artist"⟩
  | keyword => ⟨.list, "keyword", ["keyword", "kw"], "keyword"⟩
  | game => ⟨.list, "game", ["game"], "game"⟩
  | color => ⟨.color, "color", ["color", "colors", "c"], "color"⟩
  | identity =>
    ⟨.color, "identity", ["identity", "id", "ci", "coloridentity", "color_identity"],
      "color identity"⟩
  | produces => ⟨.color, "produces", ["produces"], "produced mana"⟩
  | manaValue => ⟨.numeric, "manavalue", ["manavalue", "mv", "cmc"], "mana value"⟩
  | power => ⟨.numeric, "power", ["power", "pow"], "power"⟩
  | toughness => ⟨.numeric, "toughness", ["toughness", "tou"], "toughness"⟩
  | loyalty => ⟨.numeric, "loyalty", ["loyalty", "loy"], "loyalty"⟩
  | defense => ⟨.numeric, "defense", ["defense", "def"], "defense"⟩
  | year => ⟨.numeric, "year", ["year"], "release year"⟩
  | date => ⟨.date, "date", ["date"], "release date"⟩
  | rarity => ⟨.rarity, "rarity", ["rarity", "r"], "rarity"⟩
  | set => ⟨.discrete, "set", ["set", "s", "e", "edition"], "set"⟩
  | number => ⟨.discrete, "number", ["number", "cn"], "collector number"⟩
  | layout => ⟨.discrete, "layout", ["layout"], "layout"⟩
  | lang => ⟨.discrete, "lang", ["lang", "language"], "language"⟩
  | format => ⟨.legality, "format", ["format", "f", "legal"], "format"⟩
  | banned => ⟨.legality, "banned", ["banned"], "banned in"⟩
  | restricted => ⟨.legality, "restricted", ["restricted"], "restricted in"⟩
  | is => ⟨.flag, "is", ["is"], "is"⟩
  | not => ⟨.flag, "not", ["not"], "is not"⟩

/-- The kind of a field. -/
def kind (f : Field) : FieldKind := f.info.kind

/-- The name of a field in stored queries. -/
def key (f : Field) : String := f.info.name

/-- The names that a query may use for a field. -/
def aliases (f : Field) : List String := f.info.aliases

/-- The name of a field in messages and explanations. -/
def label (f : Field) : String := f.info.label

/-- The operators that a field is compared by. -/
def operators (f : Field) : List CompareOp := CompareOp.all.filter f.kind.admits

/-- The written operators of a field, in the order of their code points. -/
def operatorTexts (f : Field) : List String :=
  ["!=", ":", "<", "<=", "=", ">", ">="].filter fun s => (f.operators.map CompareOp.text).contains s

/-- Whether a field is a stat that may be printed with a star. -/
def isStat : Field → Bool
  | power | toughness | loyalty | defense => true
  | _ => false

/-- The field that a query names, in any case. -/
def ofAlias? (s : String) : Option Field := all.find? (·.aliases.contains (Text.lower s))

/-- The field with a name in stored queries. -/
def ofKey? (s : String) : Option Field := all.find? (·.key == s)

/-- The description of a field as messages show it. -/
def display (f : Field) : String :=
  "FieldInfo(field_id=" ++ f.key ++ ", kind=" ++ f.kind.name ++ ", search_aliases=["
    ++ ", ".intercalate (f.aliases.map Text.quoted) ++ "], label=" ++ Text.quoted f.label ++ ")"

end Field

end CardQuery

import CardQuery.Color
import CardQuery.Field
import CardQuery.Json.Basic
import CardQuery.Regex.Pattern

/-!
# Query/Basic — queries as trees

A query compares a field with a value, or looks for a bare term or a bare pattern in the names of a
card, or joins other queries by `and`, `or` and `not`.

The text of a value or of a bare term is a JSON value.  A query that a person typed holds strings
there; a stored query may hold anything, and what cannot be compared shows when it is evaluated.
-/

namespace CardQuery

/-- What a field is compared with. -/
inductive Value where
  /-- A text. -/
  | text (content : Json)
  /-- A number. -/
  | number (x : Double)
  /-- A word out of a vocabulary, in lower case. -/
  | keyword (word : String)
  /-- A set of colors. -/
  | colors (set : ColorSet)
  /-- A pattern. -/
  | pattern (p : Pattern)

/-- A query. -/
inductive Query where
  /-- A field is compared with a value. -/
  | compare (field : Field) (op : CompareOp) (value : Value)
  /-- A text stands in a name. -/
  | term (content : Json)
  /-- A pattern matches a name. -/
  | pattern (p : Pattern)
  /-- Both queries hold. -/
  | and (left right : Query)
  /-- One of the queries holds. -/
  | or (left right : Query)
  /-- A query does not hold. -/
  | not (operand : Query)

namespace Value

/-- The keyword for a word in any case. -/
def ofWord (word : String) : Value := .keyword (Text.lower word)

/-- The name of a kind of values. -/
def kindName : Value → String
  | text _ => "StringValueNode"
  | number _ => "NumericValueNode"
  | keyword _ => "KeywordValueNode"
  | colors _ => "ColorSetValueNode"
  | pattern _ => "RegexValueNode"

/-- What a value is shown by. -/
def shown : Value → String
  | text content => content.display
  | number x => x.text
  | keyword word => Text.quoted word
  | colors set => set.text
  | pattern p => p.text

/-- A value as messages show it. -/
def display (v : Value) : String := v.kindName ++ "(" ++ v.shown ++ ")"

/-- Whether two values are equal: they are of one kind and agree. -/
def same : Value → Value → Bool
  | text a, text b => a.same b
  | number x, number y => x.same y
  | keyword a, keyword b => a == b
  | colors a, colors b => a == b
  | pattern p, pattern q => p == q
  | _, _ => false

/-- Whether a value can be a member of a set: a text that is an array or an object cannot. -/
def isKey : Value → Bool
  | text content => content.isKey
  | _ => true

end Value

namespace Query

/-- The name of a kind of queries. -/
def kindName : Query → String
  | compare .. => "ComparisonNode"
  | term _ => "BareTermNode"
  | pattern _ => "BareRegexNode"
  | and .. => "AndNode"
  | or .. => "OrNode"
  | not _ => "NotNode"

/-- What stands between the parentheses when a query is shown. -/
def shown : Query → List Char
  | compare field op value => (field.key ++ ", " ++ op.text ++ ", " ++ value.display).toList
  | term content => content.shown
  | pattern p => p.text.toList
  | and left right | or left right =>
    left.kindName.toList ++ '(' :: left.shown ++ [')', ',', ' '] ++ right.kindName.toList
      ++ '(' :: right.shown ++ [')']
  | not operand => operand.kindName.toList ++ '(' :: operand.shown ++ [')']

/-- A query as messages show it. -/
def display (q : Query) : String := q.kindName ++ "(" ++ String.ofList q.shown ++ ")"

/-- Whether two queries are equal: they have one shape, and their fields, operators, texts and
values agree. -/
def same : Query → Query → Bool
  | compare f o v, compare g p w => f == g && o == p && v.same w
  | term a, term b => a.same b
  | pattern p, pattern q => p == q
  | and a b, and c d => a.same c && b.same d
  | or a b, or c d => a.same c && b.same d
  | not a, not b => a.same b
  | _, _ => false

/-- Whether a query can be a member of a set. -/
def isKey : Query → Bool
  | compare _ _ v => v.isKey
  | term content => content.isKey
  | pattern _ => true
  | and left right | or left right => left.isKey && right.isKey
  | not operand => operand.isKey

end Query

end CardQuery

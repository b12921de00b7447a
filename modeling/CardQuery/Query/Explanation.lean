import CardQuery.Query.Basic

/-!
# Query/Explanation — queries in words

`Query.explain` says in English what a query asks for.  A chain of one connective is written without
parentheses, however it is bracketed; parentheses stand around a negated query and around a chain of
one connective within a chain of the other.
-/

namespace CardQuery

namespace CompareOp

/-- An operator between texts, in words. -/
def inWords : CompareOp → String
  | colon => "includes"
  | eq => "is"
  | ne => "is not"
  | lt => "<"
  | le => "≤"
  | gt => ">"
  | ge => "≥"

/-- An operator between ordered values, in words. -/
def betweenNumbers : CompareOp → String
  | colon | eq => "="
  | ne => "≠"
  | op => op.inWords

/-- An operator between sets of colors, in words. -/
def betweenColors : CompareOp → String
  | colon | ge => "includes at least"
  | eq => "is exactly"
  | ne => "is not exactly"
  | lt => "is a strict subset of"
  | le => "is within"
  | gt => "is a strict superset of"

end CompareOp

/-- A set of colors as symbols. -/
def ColorSet.symbols (s : ColorSet) : String :=
  if s = .empty then "\x7bC\x7d"
  else String.ofList (s.letters.flatMap fun c => ['\x7b', c, '\x7d'])

/-- A number in words: without a fraction if it is whole. -/
def Double.inWords (x : Double) : String :=
  match x.toInt? with
  | some n => toString n
  | none => x.text

namespace Value

/-- A value in words. -/
def explain : Value → String
  | text content => "\"" ++ content.text ++ "\""
  | number x => x.inWords
  | keyword word => word
  | colors set => set.symbols
  | pattern p => p.text

/-- Whether a value is a number. -/
def isNumber : Value → Bool
  | number _ => true
  | _ => false

/-- Whether a value is a pattern. -/
def isPattern : Value → Bool
  | pattern _ => true
  | _ => false

end Value

/-- The status that a field of legalities asks for, in words. -/
def Field.statusInWords : Field → String
  | banned => "banned"
  | restricted => "restricted"
  | _ => "legal"

/-- The operator of a comparison, in words. -/
def verbOf (kind : FieldKind) (op : CompareOp) (value : Value) : String :=
  match kind with
  | .color => op.betweenColors
  | .numeric | .rarity | .date => op.betweenNumbers
  | _ =>
    if value.isPattern then (if op = .ne then "does not match" else "matches")
    else if kind = .discrete && op = .colon then "is"
    else op.inWords

/-- A comparison in words. -/
def explainComparison (field : Field) (op : CompareOp) (value : Value) : String :=
  match field.kind with
  | .flag =>
    let verb := if (field = .is) == (op ≠ .ne) then "is" else "is not"
    "the card " ++ verb ++ " " ++ value.explain
  | .legality =>
    let verb := if op = .ne then "is not" else "is"
    "it " ++ verb ++ " " ++ field.statusInWords ++ " in " ++ value.explain
  | kind =>
    if kind = .color && value.isNumber then
      "the number of colors in the " ++ field.label ++ " " ++ op.betweenNumbers ++ " "
        ++ value.explain
    else "the " ++ field.label ++ " " ++ verbOf kind op value ++ " " ++ value.explain

namespace Query

/-- Whether the outermost connective is "and". -/
def isAnd : Query → Bool
  | and .. => true
  | _ => false

/-- Whether the outermost connective is "or". -/
def isOr : Query → Bool
  | or .. => true
  | _ => false

/-- Parentheses around a text, if it needs them. -/
def parenthesized (needed : Bool) (s : String) : String := if needed then "(" ++ s ++ ")" else s

/-- **A query in words.** -/
def explain : Query → String
  | and left right =>
    parenthesized left.isOr left.explain ++ " and " ++ parenthesized right.isOr right.explain
  | or left right =>
    parenthesized left.isAnd left.explain ++ " or " ++ parenthesized right.isAnd right.explain
  | not operand => "not (" ++ operand.explain ++ ")"
  | compare field op value => explainComparison field op value
  | term content => "the name includes \"" ++ content.text ++ "\""
  | pattern p => "the name matches " ++ p.text

end Query

end CardQuery

import CardQuery.Field
import CardQuery.Regex.Error
import CardQuery.Text.UpperCase

/-!
# Query/Rejection — why a text is no query

The first thing that is wrong with a query is a `Problem`, and it has a `Place` in the text.  The
two together with the text are a `Rejection`.

A `Diagnostic` is what a person or a program is told of it: the kind of the problem, a message, and
the range of characters concerned, which always lies within the text.
-/

namespace CardQuery

/-- The kinds of problems, which callers may branch on. -/
inductive ProblemKind where
  | unexpectedToken | unknownField | invalidComparisonValue | unterminatedString
  | unterminatedRegex | unbalancedParens | invalidOperator | invalidRegex
deriving DecidableEq, Repr

namespace ProblemKind

/-- All kinds. -/
def all : List ProblemKind :=
  [unexpectedToken, unknownField, invalidComparisonValue, unterminatedString, unterminatedRegex,
    unbalancedParens, invalidOperator, invalidRegex]

/-- The name of a kind. -/
def name : ProblemKind → String
  | unexpectedToken => "unexpected_token"
  | unknownField => "unknown_field"
  | invalidComparisonValue => "invalid_comparison_value"
  | unterminatedString => "unterminated_string"
  | unterminatedRegex => "unterminated_regex"
  | unbalancedParens => "unbalanced_parens"
  | invalidOperator => "invalid_operator"
  | invalidRegex => "invalid_regex"

/-- The kind of a name. -/
def ofName? (s : String) : Option ProblemKind := all.find? (·.name == s)

end ProblemKind

/-- What is wrong with a query. -/
inductive Problem where
  /-- A character that starts no token. -/
  | unexpectedCharacter (c : Char)
  /-- A quotation without its closing quote. -/
  | openQuotation
  /-- A pattern without its closing slash. -/
  | openPattern
  /-- Nothing to search for. -/
  | emptyQuery
  /-- The query ends where a term should stand. -/
  | unexpectedEnd
  /-- A token where it cannot stand. -/
  | unexpectedToken (text : String)
  /-- No term after an operator. -/
  | missingTerm (operator : String)
  /-- Parentheses with nothing in them. -/
  | emptyParentheses
  /-- An opening parenthesis without its closing one. -/
  | openParenthesis
  /-- A closing parenthesis without its opening one. -/
  | strayParenthesis
  /-- A name that is no alias of a field. -/
  | unknownField (name : String)
  /-- An operator that the field is not compared by. -/
  | unsupportedOperator (op : CompareOp) (field : Field)
  /-- No value right after an operator. -/
  | missingValue (comparison : String)
  /-- A pattern for a field whose values are no texts. -/
  | unsupportedPattern (field : Field)
  /-- A star compared by order. -/
  | orderedStar (field : Field)
  /-- A value that is no number. -/
  | notNumber (field : Field) (text : String)
  /-- A value that is no date. -/
  | notDate (field : Field) (text : String)
  /-- A value that is no rarity. -/
  | unknownRarity (text : String)
  /-- A value that is no property of cards. -/
  | unknownFlag (field : Field) (text : String)
  /-- A pattern that cannot be read. -/
  | badPattern (e : Regex.Error)
deriving DecidableEq, Repr

namespace Problem

/-- The kind of a problem. -/
def kind : Problem → ProblemKind
  | unexpectedCharacter _ | emptyQuery | unexpectedEnd | unexpectedToken _ | missingTerm _
  | emptyParentheses => .unexpectedToken
  | openQuotation => .unterminatedString
  | openPattern => .unterminatedRegex
  | openParenthesis | strayParenthesis => .unbalancedParens
  | unknownField _ => .unknownField
  | unsupportedOperator .. => .invalidOperator
  | missingValue _ | unsupportedPattern _ | orderedStar _ | notNumber .. | notDate ..
  | unknownRarity _ | unknownFlag .. => .invalidComparisonValue
  | badPattern _ => .invalidRegex

/-- A problem in words. -/
def message : Problem → String
  | unexpectedCharacter c => "Unexpected character " ++ Text.quoted (String.singleton c)
  | openQuotation => "Unterminated quoted string"
  | openPattern => "Unterminated regex"
  | emptyQuery => "Empty query"
  | unexpectedEnd => "Unexpected end of query"
  | unexpectedToken text => "Unexpected " ++ Text.quoted text
  | missingTerm operator => "Expected a search term after " ++ Text.quoted operator
  | emptyParentheses => "Empty parentheses"
  | openParenthesis => "Expected closing parenthesis"
  | strayParenthesis => "Unmatched closing parenthesis"
  | unknownField name => "Unknown field " ++ Text.quoted name
  | unsupportedOperator op field =>
    "Operator " ++ op.text ++ " is not supported for " ++ field.label ++ "; use one of "
      ++ " ".intercalate field.operatorTexts
  | missingValue comparison => "Expected a value after " ++ Text.quoted comparison
  | unsupportedPattern field => "Regular expressions are not supported for " ++ field.label
  | orderedStar field =>
    Text.capitalized field.label ++ " * can only be compared with : = !="
  | notNumber field text =>
    "Expected a number for " ++ field.label ++ ", got " ++ Text.quoted text
  | notDate field text =>
    "Expected a date like 2020-01-31 for " ++ field.label ++ ", got " ++ Text.quoted text
  | unknownRarity text => "Unknown rarity " ++ Text.quoted text
  | unknownFlag field text => "Unknown " ++ field.label ++ ": value " ++ Text.quoted text
  | badPattern e => "Invalid regex: " ++ e.message

end Problem

/-- Where in a query a problem is. -/
inductive Place where
  /-- The characters from one place up to another. -/
  | span (start stop : Nat)
  /-- Behind the last character. -/
  | queryEnd
deriving DecidableEq, Repr

/-- A report on a query. -/
structure Diagnostic where
  kind : ProblemKind
  message : String
  query : String
  /-- The place of the first character concerned. -/
  start : Nat
  /-- The place after the last character concerned. -/
  stop : Nat
deriving DecidableEq, Repr

namespace Diagnostic

/-- A report with its range cut to the query.  Without a given end it concerns one character. -/
def make (kind : ProblemKind) (message query : String) (position : Int) (stop : Option Int) :
    Diagnostic :=
  let size : Int := query.length
  let start := max 0 (min position size)
  ⟨kind, message, query, start.toNat, (max start (min (stop.getD (start + 1)) size)).toNat⟩

/-- The number of bytes before the first character concerned. -/
def offset (d : Diagnostic) : Nat := (String.ofList (d.query.toList.take d.start)).utf8ByteSize

/-- The query with a line below it that marks the range. -/
def pointer (d : Diagnostic) : String :=
  d.query ++ "\n"
    ++ String.ofList (List.replicate d.start ' ' ++ List.replicate (max 1 (d.stop - d.start)) '^')

/-- A report on one line. -/
def display (d : Diagnostic) : String :=
  "ParseError(kind=" ++ d.kind.name ++ ", message=" ++ Text.quoted d.message ++ ", position="
    ++ toString d.start ++ ")"

end Diagnostic

/-- A text that is no query, with the first thing that is wrong with it. -/
structure Rejection where
  problem : Problem
  place : Place
  query : String
deriving DecidableEq, Repr

/-- The report on a text that is no query. -/
def Rejection.diagnostic (r : Rejection) : Diagnostic :=
  match r.place with
  | .span start stop =>
    .make r.problem.kind r.problem.message r.query start (some (stop : Int))
  | .queryEnd => .make r.problem.kind r.problem.message r.query r.query.length none

end CardQuery

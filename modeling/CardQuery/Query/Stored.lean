import CardQuery.Json.Access
import CardQuery.Json.Reader
import CardQuery.Json.Writer
import CardQuery.Query.Basic

/-!
# Query/Stored — queries as JSON documents

`Query.toJson` writes a query as a tree of objects, each with a `type`, and `Query.ofJson` reads one
back; patterns are compiled again, so that what was read can be evaluated.  Reading is lenient:
keywords may be in any case, colors written in any way that a person may type, and numbers given as
texts.

`Query.store` and `Query.load` go between queries and the text of a document.
-/

namespace CardQuery

/-- The pattern with a source and flags, or the fault that it is refused by. -/
def Pattern.compile (source flags : String) : Except Fault Pattern :=
  (Pattern.make source flags).mapError Fault.ofRefusal

namespace Value

/-- A value as a tree of objects. -/
def toJson : Value → Json
  | text content => .object [("type", .string "string"), ("value", content)]
  | number x => .object [("type", .string "number"), ("value", .double x)]
  | keyword word => .object [("type", .string "keyword"), ("value", .string word)]
  | colors set => .object [("type", .string "colors"), ("value", .string set.text)]
  | pattern p =>
    .object [("type", .string "regex"), ("value", .string p.source), ("flags", .string p.flags)]

/-- The number that is stored. -/
def numberOf : Json → Except Fault Double
  | .double x => .ok x
  | .bool b => .ok (Double.ofInt (if b then 1 else 0))
  | .int n =>
    match Double.ofInt? n with
    | some x => .ok x
    | none => .error .tooLarge
  | .string s =>
    match readDouble? s with
    | some x => .ok x
    | none => .error (.badValue (.notNumber s))
  | _ => .error .wrongKind

/-- The flags that are stored with a pattern. -/
def flagsOf : Json → Except Fault String
  | .string s => .ok s
  | _ => .error .wrongKind

/-- The pattern that is stored as a source with flags. -/
def patternOf (source flags : Json) : Except Fault Pattern := do
  if !source.isKey then throw .wrongKind
  let flags ← flagsOf flags
  match source with
  | .string s => Pattern.compile s flags
  | _ =>
    match flags.toList.find? (!Regex.flagLetters.contains ·) with
    | some flag => throw (.badValue (.unknownFlag flag))
    | none => throw .wrongKind

/-- The value that a tree of objects stands for. -/
def ofJson (j : Json) : Except Fault Value := do
  let type ← j.get "type"
  match type with
  | .string "string" => return .text (← j.require "value")
  | .string "number" => return .number (← numberOf (← j.require "value"))
  | .string "keyword" => return .ofWord (← (← j.require "value").asText)
  | .string "colors" => return .colors (ColorSet.read (← (← j.require "value").asText))
  | .string "regex" =>
    let source ← j.require "value"
    let members ← j.asMembers
    return .pattern (← patternOf source ((Json.find? "flags" members).getD (.string "")))
  | type => throw (.badValue (.unknownValueType type.display))

end Value

namespace Query

/-- A query as a tree of objects. -/
def toJson : Query → Json
  | compare field op value =>
    .object [("type", .string "comparison"), ("field", .string field.key),
      ("operator", .string op.text), ("value", value.toJson)]
  | term content => .object [("type", .string "bare_term"), ("text", content)]
  | pattern p => .object [("type", .string "bare_regex"), ("value", (Value.pattern p).toJson)]
  | and left right =>
    .object [("type", .string "and"), ("left", left.toJson), ("right", right.toJson)]
  | or left right =>
    .object [("type", .string "or"), ("left", left.toJson), ("right", right.toJson)]
  | not operand => .object [("type", .string "not"), ("operand", operand.toJson)]

/-- The field of a stored name. -/
def fieldOf (j : Json) : Except Fault Field :=
  match j with
  | .string s =>
    match Field.ofKey? s with
    | some field => .ok field
    | none => .error (.badValue (.notAmong j.display "FieldId"))
  | _ => .error (.badValue (.notAmong j.display "FieldId"))

/-- The operator of a stored text. -/
def operatorOf (j : Json) : Except Fault CompareOp :=
  match j with
  | .string s =>
    match CompareOp.ofText? s with
    | some op => .ok op
    | none => .error (.badValue (.notAmong j.display "CompareOp"))
  | _ => .error (.badValue (.notAmong j.display "CompareOp"))

/-- The comparison that an object stands for: its members are looked up before the names in them. -/
def comparisonOf (j : Json) : Except Fault Query := do
  let field ← j.require "field"
  let op ← j.require "operator"
  let value ← Value.ofJson (← j.require "value")
  return .compare (← fieldOf field) (← operatorOf op) value

/-- A value as a bare pattern. -/
def ofValue : Value → Except Fault Query
  | .pattern p => .ok (.pattern p)
  | v => .error (.badValue (.notPattern v.display))

/-- The bare pattern that an object stands for. -/
def patternOf (j : Json) : Except Fault Query := do
  ofValue (← Value.ofJson (← j.require "value"))

/-- The query that a value without parts of its own stands for. -/
def leafOf (j : Json) : Except Fault Query := do
  match ← j.get "type" with
  | .string "comparison" => comparisonOf j
  | .string "bare_term" => return .term (← j.require "text")
  | .string "bare_regex" => patternOf j
  | type => throw (.badValue (.unknownQueryType type.display))

mutual

/-- **The query that a tree of objects stands for.** -/
def ofJson : Json → Except Fault Query
  | .object members =>
    match Json.find? "type" members with
    | some (.string "and") => do
      return .and (← ofMember "left" members) (← ofMember "right" members)
    | some (.string "or") => do
      return .or (← ofMember "left" members) (← ofMember "right" members)
    | some (.string "not") => do return .not (← ofMember "operand" members)
    | _ => leafOf (.object members)
  | _ => .error .noSuchPart

/-- The query that a member stands for. -/
def ofMember (key : String) : List (String × Json) → Except Fault Query
  | [] => .error (.missingKey (Text.quoted key))
  | (k, v) :: rest => if k = key then ofJson v else ofMember key rest

end

/-- **The document that stores a query.**  There is none if a number or the nesting has no room. -/
def store (q : Query) : Except Fault String :=
  match q.toJson.store? with
  | some document => .ok document
  | none => .error .wrongKind

/-- **The query that a document stores.** -/
def load (document : String) : Except Fault Query :=
  match Json.load? document with
  | some j => ofJson j
  | none => .error .malformedDocument

end Query

end CardQuery

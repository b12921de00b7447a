import CardQuery.Query.Lexer
import CardQuery.Query.Operand

/-!
# Query/Grammar — from tokens to queries

The grammar, from the loosest binding to the tightest:

    either     := both (OR both)*
    both       := negation ([AND] negation)*
    negation   := '-' negation | term
    term       := '(' either ')' | comparison | exact name | word | quotation | pattern
    comparison := field and operator, value

Both connectives join to the left, so that `a b c` is `(a b) c`.  Reading stops at the first problem
and says which tokens were not read any more.

Nested calls carry a bound on their depth.  Between two calls of one function at least one token is
read, and the chain from `readEither` to `readTerm` has four members, so four times the number of
tokens and four more is always enough.
-/

namespace CardQuery

/-- Where and why the reading of tokens stops. -/
structure Failure where
  cause : Cause
  place : Place
  /-- The tokens that were not read any more. -/
  unread : List Token
deriving DecidableEq, Repr

/-- The range of a token. -/
def Token.place (t : Token) : Place := .span t.start t.stop

/-- Reads a query and gives the tokens after it. -/
abbrev Reading (m : Type → Type) := ExceptT Failure m (Query × List Token)

namespace Query

section Reading

variable {m : Type → Type} [Monad m]

/-- Stops at a token. -/
def stopAt {α : Type} (p : Problem) (t : Token) (unread : List Token) : ExceptT Failure m α :=
  throw ⟨.problem p, t.place, unread⟩

/-- Stops at the end of the query. -/
def stopAtEnd {α : Type} (p : Problem) (unread : List Token) : ExceptT Failure m α :=
  throw ⟨.problem p, .queryEnd, unread⟩

/-- Stops unless a term begins after an operator. -/
def expectTerm (operator : Token) : List Token → ExceptT Failure m Unit
  | [] => stopAt (.missingTerm operator.text) operator []
  | t :: rest =>
    if t.kind.startsTerm then return ()
    else stopAt (.missingTerm operator.text) t (t :: rest)

/-- The comparison of a field with a value; colors that include no color are read as exactly none,
since every card includes no color. -/
def comparing (field : Field) (op : CompareOp) (value : Value) : Query :=
  match field.kind, op, value with
  | .color, .colon, .colors set => .compare field (if set = .empty then .eq else op) value
  | _, _, _ => .compare field op value

/-- The closing parenthesis of a group that the token `t` opened. -/
def closeGroup (t : Token) (q : Query) : List Token → Reading m
  | [] => stopAt .openParenthesis t []
  | c :: rest =>
    if c.kind = .closing then return (q, rest) else stopAt .openParenthesis t (c :: rest)

variable (make : Pattern.Maker m)

/-- A comparison after the token `t` with its name and operator. -/
def readComparison (t : Token) (name : String) (op : CompareOp) (ts : List Token) : Reading m :=
  match Field.ofAlias? name with
  | none => throw ⟨.problem (.unknownField name), .span t.start (t.start + name.length), ts⟩
  | some field =>
    if field.kind.admits op then
      match ts with
      | [] => stopAtEnd (.missingValue t.text) []
      | v :: rest =>
        if v.kind.isValue && v.follows t then do
          let value ← (Value.ofToken make field op v).adapt fun cause =>
            (⟨cause, v.place, v :: rest⟩ : Failure)
          return (comparing field op value, rest)
        else stopAt (.missingValue t.text) v (v :: rest)
    else stopAt (.unsupportedOperator op field) t ts

mutual

/-- Queries joined by `OR`. -/
def readEither : Nat → List Token → Reading m
  | 0, ts => stopAtEnd .unexpectedEnd ts
  | bound + 1, ts => do
    let (first, rest) ← readBoth bound ts
    readEitherAfter bound first rest

/-- Further queries joined by `OR` to a first one. -/
def readEitherAfter : Nat → Query → List Token → Reading m
  | 0, _, ts => stopAtEnd .unexpectedEnd ts
  | _ + 1, left, [] => return (left, [])
  | bound + 1, left, t :: rest =>
    if t.kind = .or then do
      expectTerm t rest
      let (right, rest) ← readBoth bound rest
      readEitherAfter bound (.or left right) rest
    else return (left, t :: rest)

/-- Queries joined by `AND` or by standing side by side. -/
def readBoth : Nat → List Token → Reading m
  | 0, ts => stopAtEnd .unexpectedEnd ts
  | bound + 1, ts => do
    let (first, rest) ← readNegation bound ts
    readBothAfter bound first rest

/-- Further queries joined to a first one by `AND` or by standing beside it. -/
def readBothAfter : Nat → Query → List Token → Reading m
  | 0, _, ts => stopAtEnd .unexpectedEnd ts
  | _ + 1, left, [] => return (left, [])
  | bound + 1, left, t :: rest =>
    if t.kind = .and then do
      expectTerm t rest
      let (right, rest) ← readNegation bound rest
      readBothAfter bound (.and left right) rest
    else if t.kind.startsTerm then do
      let (right, rest) ← readNegation bound (t :: rest)
      readBothAfter bound (.and left right) rest
    else return (left, t :: rest)

/-- A term with any number of dashes before it. -/
def readNegation : Nat → List Token → Reading m
  | 0, ts => stopAtEnd .unexpectedEnd ts
  | _ + 1, [] => stopAtEnd .unexpectedEnd []
  | bound + 1, t :: rest =>
    if t.kind = .not then do
      expectTerm t rest
      let (operand, rest) ← readNegation bound rest
      return (.not operand, rest)
    else readTerm bound t rest

/-- A term that begins with the token `t`. -/
def readTerm : Nat → Token → List Token → Reading m
  | 0, _, ts => stopAtEnd .unexpectedEnd ts
  | bound + 1, t, ts =>
    match t.kind with
    | .opening =>
      match ts with
      | [] => stopAt .openParenthesis t []
      | c :: rest =>
        if c.kind = .closing then stopAt .emptyParentheses c (c :: rest)
        else do
          let (q, rest) ← readEither bound (c :: rest)
          closeGroup t q rest
    | .comparison name op => readComparison make t name op ts
    | .exactName => return (.compare .name .eq (.text (.string t.text)), ts)
    | .word | .quoted => return (.term (.string t.text), ts)
    | .pattern flags => do
      let p ← (Pattern.ofToken make t.text flags).adapt fun cause =>
        (⟨cause, t.place, t :: ts⟩ : Failure)
      return (.pattern p, ts)
    | .closing => stopAt .strayParenthesis t ts
    | .and | .or | .not => stopAt (.unexpectedToken t.text) t ts

end

/-- The query that tokens make with patterns of a maker. -/
def readAll (ts : List Token) : ExceptT Failure m Query :=
  if ts.isEmpty then stopAtEnd .emptyQuery []
  else do
    let (q, rest) ← readEither make (4 * ts.length + 4) ts
    match rest with
    | [] => return q
    | t :: rest =>
      if t.kind = .closing then stopAt .strayParenthesis t (t :: rest)
      else stopAt (.unexpectedToken t.text) t (t :: rest)

end Reading

/-- **The query that tokens make.** -/
def ofTokens (ts : List Token) : Except Failure Query := readAll (m := Id) Pattern.make ts

/-! ## Parsing -/

/-- A failure as a fault of the whole query. -/
def faultOf (query : String) (f : Failure) : Fault :=
  match f.cause with
  | .problem p => .rejected ⟨p, f.place, query⟩
  | .fault fault => fault

/-- The query that a text writes, with patterns of a maker. -/
def parseWith {m : Type → Type} [Monad m] (make : Pattern.Maker m) (query : String) :
    ExceptT Fault m Query :=
  match tokenize query with
  | .error r => throw (.rejected r)
  | .ok ts => (readAll make ts).adapt (faultOf query)

/-- **The query that a text writes.** -/
def parse (query : String) : Except Fault Query := parseWith (m := Id) Pattern.make query

end Query

end CardQuery

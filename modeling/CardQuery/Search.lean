import CardQuery.Match
import CardQuery.Query.Grammar
import CardQuery.Text.CaseClass
import CardQuery.Text.Word

/-!
# Search — searching cards

`tryCompile` makes a search of a query, or else hands over the report on it.

`filterCards` gives the cards that match a query, in their order and no more than a limit allows.

`hasOperators` tells a text that clearly uses the language of queries from plain text such as
`lightning bolt`, which a caller may rather look up as a name.
-/

namespace CardQuery

/-! ## Compiled searches -/

/-- A query that is ready to be matched, with its text. -/
structure CompiledSearch where
  query : String
  ast : Query

/-- What compiling a query comes to: a search, or the reason that there is none. -/
structure Outcome where
  search? : Option CompiledSearch
  rejection? : Option Rejection

/-- **The outcome of compiling a query.**  Only a rejection is handed over; any other fault is the
caller's. -/
def tryCompile (query : String) : Except Fault Outcome :=
  match Query.parse query with
  | .ok q => .ok ⟨some ⟨query, q⟩, none⟩
  | .error (.rejected r) => .ok ⟨none, some r⟩
  | .error f => .error f

/-! ## Filtering -/

/-- The matching cards, where `found` cards matched before.  The limit is looked at after each match,
so that one card is found whatever the limit. -/
def matching (q : Query) (limit : Option Int) (found : Nat) : List Card → Except Fault (List Card)
  | [] => .ok []
  | c :: rest => do
    if ← q.matches c then
      if limit.any (· ≤ (found + 1 : Int)) then return [c]
      return c :: (← matching q limit (found + 1) rest)
    matching q limit found rest

/-- **The cards that match a query.** -/
def filterCards (cards : List Card) (query : String) (limit : Option Int) :
    Except Fault (List Card) := do
  matching (← Query.parse query) limit 0 cards

/-! ## Signs of the language -/

/-- Whether an alias begins here, in any case, with an operator after it. -/
def aliasAt : List Char → List Char → Bool
  | [], s => (operatorAt? s).isSome
  | a :: rest, c :: s => Text.caseKey a.toNat == Text.caseKey c.toNat && aliasAt rest s
  | _ :: _, [] => false

/-- Every alias of a field. -/
def allAliases : List (List Char) := Field.all.flatMap fun f => f.aliases.map String.toList

/-- Whether a word stands here that ends with a word. -/
def wholeWordAt (word s : List Char) : Bool :=
  word.isPrefixOf s && !(s.drop word.length).head?.any Text.isWordChar

/-- Whether a slash follows on the same line, with something before it. -/
def closesPattern (s : List Char) : Bool := ((s.takeWhile (· != '\n')).drop 1).contains '/'

/-- Whether a sign of the language begins here.  `before` is the character before, if there is
one. -/
def signAt (before : Option Char) (s : List Char) : Bool :=
  let fresh := !before.any Text.isWordChar
  let apart := before.all fun b => Text.isBlank b || b == '('
  match s with
  | [] => false
  | '"' :: _ | '(' :: _ | ')' :: _ => true
  | '!' :: _ => apart
  | '-' :: rest => apart && rest.head?.any Text.isWordChar
  | '/' :: rest => before.all Text.isBlank && closesPattern rest
  | s =>
    fresh && (wholeWordAt ['A', 'N', 'D'] s || wholeWordAt ['O', 'R'] s
      || allAliases.any (aliasAt · s))

/-- Whether a sign of the language stands in a text, given the character before it. -/
def hasSign : Option Char → List Char → Bool
  | _, [] => false
  | before, c :: rest => signAt before (c :: rest) || hasSign (some c) rest

/-- **Whether a text clearly uses the language of queries.** -/
def hasOperators (text : String) : Bool := hasSign none text.toList

end CardQuery

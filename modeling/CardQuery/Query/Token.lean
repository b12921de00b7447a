import CardQuery.Comparison

/-!
# Query/Token — the words of a query

A token is a piece of a query with its kind, its text and its place.  The text of a quotation or of
an exact name is without its quotes and escapes, and the text of a pattern without its slashes.
-/

namespace CardQuery

/-- The kinds of tokens. -/
inductive TokenKind where
  /-- A bare word. -/
  | word
  /-- A quotation. -/
  | quoted
  /-- A pattern between slashes with the flags after them. -/
  | pattern (flags : String)
  /-- The name of a field with the operator right after it. -/
  | comparison (field : String) (op : CompareOp)
  /-- An opening parenthesis. -/
  | opening
  /-- A closing parenthesis. -/
  | closing
  /-- The word for "and". -/
  | and
  /-- The word for "or". -/
  | or
  /-- A dash that negates. -/
  | not
  /-- A name that has to be matched as a whole. -/
  | exactName
deriving DecidableEq, Repr

/-- A token of a query. -/
structure Token where
  kind : TokenKind
  text : String
  /-- The place of the first character. -/
  start : Nat
  /-- The place after the last character. -/
  stop : Nat
deriving DecidableEq, Repr

namespace TokenKind

/-- Whether a token of a kind may be the value of a comparison. -/
def isValue : TokenKind → Bool
  | word | quoted | pattern _ => true
  | _ => false

/-- Whether a token of a kind may begin a term. -/
def startsTerm : TokenKind → Bool
  | opening | not | comparison .. | exactName | word | quoted | pattern _ => true
  | closing | and | or => false

/-- Whether a value may follow a token of a kind. -/
def takesValue : TokenKind → Bool
  | comparison .. => true
  | _ => false

end TokenKind

/-- Whether a token begins right where another one ends. -/
def Token.follows (t s : Token) : Bool := t.start == s.stop

end CardQuery

import CardQuery.Query.Rejection
import CardQuery.Query.Token
import CardQuery.Text.Blank

/-!
# Query/Lexer — cutting a query into tokens

A query is cut from left to right.  `itemAt` and `valueAt` decide what begins at a character: a
token with as many more characters as it takes, something that is never closed, or nothing.  The
value of a comparison has to begin right after the operator and is cut by rules of its own, so that
in `pow>-1` the dash belongs to the number.

A slash opens a pattern only where a term may begin, which is read off what stands before it
(`mayOpenPattern`); elsewhere it is part of a word, as in `fire / ice`.

A quotation or a pattern in which a backslash stands before a line break is not recognised as one.
-/

namespace CardQuery

open Text

/-! ## Characters -/

/-- Whether a character may stand in a bare value. -/
def isValueChar (c : Char) : Bool := !isBlank c && c != '(' && c != ')' && c != '"'

/-- Whether a character may begin the name of a field. -/
def isNameStart (c : Char) : Bool := c.isAlpha || c == '_'

/-- Whether a character may stand in the name of a field. -/
def isNameChar (c : Char) : Bool := c.isAlphanum || c == '_'

/-- Whether a letter is a flag of a pattern. -/
def isFlagLetter (c : Char) : Bool := ['g', 'i', 'm', 's', 'u', 'y'].contains c

/-- Whether a text begins with a blank or a parenthesis, or is at its end. -/
def atWordEnd : List Char → Bool
  | [] => true
  | c :: _ => isBlank c || c == '(' || c == ')'

/-! ## Quotations -/

/-- A text without its escapes: a backslash is dropped and keeps the character after it. -/
def unescape : List Char → List Char
  | '\\' :: c :: rest => c :: unescape rest
  | c :: rest => c :: unescape rest
  | [] => []

/-- What stands before the closing quote; a character after a backslash closes nothing. -/
def quotedBody? (quote : Char) : List Char → Option (List Char)
  | [] => none
  | '\\' :: c :: rest => (quotedBody? quote rest).map ('\\' :: c :: ·)
  | c :: rest => if c == quote then some [] else (quotedBody? quote rest).map (c :: ·)

/-- Whether a backslash stands before a line break. -/
def escapesBreak : List Char → Bool
  | '\\' :: c :: rest => c == '\n' || escapesBreak rest
  | _ :: rest => escapesBreak rest
  | [] => false

/-! ## What begins at a character -/

/-- What begins at a character. -/
inductive Start where
  /-- A token that takes `extra` characters after its first. -/
  | token (kind : TokenKind) (text : List Char) (extra : Nat)
  /-- Something that is never closed. -/
  | unclosed (p : Problem)
  /-- Nothing that is known. -/
  | nothing
deriving DecidableEq, Repr

/-- What begins, or else another thing. -/
def Start.orElse : Start → Start → Start
  | nothing, s => s
  | s, _ => s

/-- A quotation after its opening quote.  `extra` characters stood between the start of the token
and the quote. -/
def quotationAt (kind : TokenKind) (extra : Nat) (tail : List Char) : Start :=
  match quotedBody? '"' tail with
  | none => .unclosed .openQuotation
  | some body =>
    if escapesBreak body then .nothing else .token kind (unescape body) (extra + body.length + 1)

/-- A pattern after its opening slash. -/
def patternAt (tail : List Char) : Start :=
  match quotedBody? '/' tail with
  | none => .unclosed .openPattern
  | some body =>
    if escapesBreak body then .nothing
    else
      let flags := (tail.drop (body.length + 1)).takeWhile isFlagLetter
      .token (.pattern (String.ofList flags)) body (body.length + 1 + flags.length)

/-- A bare word. -/
def wordAt (c : Char) (tail : List Char) : Start :=
  if isValueChar c then
    let more := tail.takeWhile isValueChar
    .token .word (c :: more) more.length
  else .nothing

/-- The value of a comparison. -/
def valueAt (c : Char) (tail : List Char) : Start :=
  if c == '"' then quotationAt .quoted 0 tail
  else if c == '/' then (patternAt tail).orElse (wordAt c tail)
  else wordAt c tail

/-- An exact name after its exclamation mark; blanks may stand between the two. -/
def exactNameAt (tail : List Char) : Start :=
  let blanks := tail.takeWhile isBlank
  match tail.dropWhile isBlank with
  | [] => .nothing
  | c :: rest =>
    if c == '"' then quotationAt .exactName (blanks.length + 1) rest
    else
      let name := (c :: rest).takeWhile isValueChar
      if name.isEmpty then .nothing else .token .exactName name (blanks.length + name.length)

/-- A word in either case, as a whole word: the letters after its first. -/
def keywordAt (kind : TokenKind) (word : List Char) (c : Char) (tail : List Char) : Start :=
  let written := c :: tail.take (word.length - 1)
  if written.map Char.toLower == word && atWordEnd (tail.drop (word.length - 1)) then
    .token kind written (word.length - 1)
  else .nothing

/-- The operator at the head of a text. -/
def operatorAt? : List Char → Option CompareOp
  | '!' :: '=' :: _ => some .ne
  | '<' :: '=' :: _ => some .le
  | '>' :: '=' :: _ => some .ge
  | ':' :: _ => some .colon
  | '=' :: _ => some .eq
  | '<' :: _ => some .lt
  | '>' :: _ => some .gt
  | _ => none

/-- The name of a field with an operator. -/
def comparisonAt (c : Char) (tail : List Char) : Start :=
  if isNameStart c then
    let more := tail.takeWhile isNameChar
    match operatorAt? (tail.dropWhile isNameChar) with
    | some op =>
      let field := c :: more
      let symbol := op.text.toList
      .token (.comparison (String.ofList field) op) (field ++ symbol) (more.length + symbol.length)
    | none => .nothing
  else .nothing

/-- Whether a slash opens a pattern after a text, which is given nearest first: at the start, after
an opening parenthesis, after dashes that stand for themselves, and after an operator word. -/
def mayOpenPattern (before : List Char) : Bool :=
  match before.dropWhile isBlank with
  | [] => true
  | '(' :: _ => true
  | '-' :: rest =>
    match rest.dropWhile (· == '-') with
    | [] => true
    | c :: _ => isBlank c || c == '('
  | c :: d :: rest =>
    let two := [d.toLower, c.toLower]
    if two == ['o', 'r'] then atWordEnd rest
    else if two == ['n', 'd'] then
      match rest with
      | [] => false
      | e :: rest => e.toLower == 'a' && atWordEnd rest
    else false
  | _ => false

/-- What begins at a character where a term may stand. -/
def itemAt (before : List Char) (c : Char) (tail : List Char) : Start :=
  if c == '(' then .token .opening [c] 0
  else if c == ')' then .token .closing [c] 0
  else if c == '"' then quotationAt .quoted 0 tail
  else if c == '-' then .token .not [c] 0
  else if c == '!' then (exactNameAt tail).orElse (wordAt c tail)
  else if c == '/' then
    (if mayOpenPattern before then patternAt tail else .nothing).orElse (wordAt c tail)
  else
    (keywordAt .or ['o', 'r'] c tail).orElse
      ((keywordAt .and ['a', 'n', 'd'] c tail).orElse ((comparisonAt c tail).orElse (wordAt c tail)))

/-! ## Cutting -/

/-- The tokens of a text.  `before` is what stands before it, nearest first, and `value` says that
the operator of a comparison stands right before. -/
def tokensFrom (value : Bool) (before : List Char) (place : Nat) :
    List Char → Except (Problem × Place) (List Token)
  | [] => .ok []
  | c :: tail =>
    match (if value then valueAt c tail else .nothing).orElse (itemAt before c tail) with
    | .token kind text extra => do
      let stop := place + 1 + extra
      let rest ← tokensFrom kind.takesValue ((tail.take extra).reverse ++ c :: before) stop
        (tail.drop extra)
      return ⟨kind, String.ofList text, place, stop⟩ :: rest
    | .unclosed p => .error (p, .span place (place + 1 + tail.length))
    | .nothing =>
      if isGap c then tokensFrom false (c :: before) (place + 1) tail
      else .error (.unexpectedCharacter c, .span place (place + 1))
termination_by s => s.length
decreasing_by all_goals simp only [List.length_cons, List.length_drop]; omega

/-- **The tokens of a query.**  A query of blanks has none. -/
def tokenize (query : String) : Except Rejection (List Token) :=
  if isBlankText query then .ok []
  else
    (tokensFrom false [] 0 query.toList).mapError fun (problem, place) => ⟨problem, place, query⟩

end CardQuery

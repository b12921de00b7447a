/-!
# Regex/Syntax — regular expressions

The tree of a regular expression, the modes that decide how it is matched, and the range of lengths
that it can match (`Node.width`), which look-behind needs to be a single length.
-/

namespace CardQuery.Regex

/-- How a pattern is matched. -/
structure Mode where
  /-- Letters match in either case. -/
  caseless : Bool
  /-- `^` and `$` match at every line. -/
  multiline : Bool
  /-- The dot matches a line feed. -/
  dotAll : Bool
  /-- Classes and cases know the ASCII characters alone. -/
  ascii : Bool
deriving DecidableEq, Repr

/-- A change of mode for a part of a pattern. -/
structure ModeChange where
  caseless : Option Bool
  multiline : Option Bool
  dotAll : Option Bool
  ascii : Option Bool
deriving DecidableEq, Repr

/-- A mode after a change. -/
def Mode.apply (m : Mode) (c : ModeChange) : Mode :=
  ⟨c.caseless.getD m.caseless, c.multiline.getD m.multiline, c.dotAll.getD m.dotAll,
    c.ascii.getD m.ascii⟩

/-- A named class of characters. -/
inductive Category where
  | digit | space | word
deriving DecidableEq, Repr

/-- An item of a character class. -/
inductive ClassItem where
  | one (code : Nat)
  | range (first last : Nat)
  | category (c : Category) (negated : Bool)
deriving DecidableEq, Repr

/-- A condition on a place in a text. -/
inductive Anchor where
  | lineStart | lineEnd | textStart | textEnd | wordEdge | wordInside
deriving DecidableEq, Repr

/-- In which order the counts of a repetition are tried. -/
inductive Greed where
  /-- Larger counts first. -/
  | greedy
  /-- Smaller counts first. -/
  | lazy
  /-- Only the first count that greed finds. -/
  | possessive
deriving DecidableEq, Repr

/-- A range of lengths; `none` stands for no upper bound. -/
structure Width where
  least : Nat
  most : Option Nat
deriving DecidableEq, Repr

namespace Width

/-- The width of one character. -/
def one : Width := ⟨1, some 1⟩

/-- The width of the empty text. -/
def zero : Width := ⟨0, some 0⟩

/-- The width of two parts in sequence. -/
def add (a b : Width) : Width :=
  ⟨a.least + b.least, a.most.bind fun m => b.most.map (m + ·)⟩

/-- The width of a choice of two parts. -/
def join (a b : Width) : Width :=
  ⟨min a.least b.least, a.most.bind fun m => b.most.map (max m ·)⟩

/-- The width of a repeated part.  No rounds of any part, and any rounds of an empty one, make up the
empty text. -/
def times (a : Width) (least : Nat) (most : Option Nat) : Width :=
  ⟨a.least * least,
    match a.most, most with
    | some 0, _ | _, some 0 => some 0
    | some m, some n => some (m * n)
    | _, _ => none⟩

/-- The length from which on lengths are not told apart. -/
def limit : Nat := 4294967295

/-- Whether all lengths in a range are the same one. -/
def isFixed (a : Width) : Bool := a.most == some a.least && a.least < limit

end Width

/-- A regular expression. -/
inductive Node where
  | empty
  | char (code : Nat)
  /-- Any character but one. -/
  | charExcept (code : Nat)
  | any
  | charClass (negated : Bool) (items : List ClassItem)
  | anchor (a : Anchor)
  | seq (first second : Node)
  | alt (first second : Node)
  | repeated (least : Nat) (most : Option Nat) (greed : Greed) (body : Node)
  | capture (group : Nat) (body : Node)
  | sameAs (group : Nat) (width : Width)
  | ahead (negated : Bool) (body : Node)
  | behind (negated : Bool) (body : Node)
  | atomic (body : Node)
  | within (change : ModeChange) (body : Node)
  | ifCaptured (group : Nat) (yes no : Node)
deriving Repr

namespace Node

/-- The range of lengths that an expression can match. -/
def width : Node → Width
  | empty | anchor _ | ahead _ _ | behind _ _ => .zero
  | char _ | charExcept _ | any | charClass _ _ => .one
  | seq a b => a.width.add b.width
  | alt a b | ifCaptured _ a b => a.width.join b.width
  | repeated least most _ body => body.width.times least most
  | capture _ body | atomic body | within _ body => body.width
  | sameAs _ w => w

/-- Every part that is matched looking behind. -/
def lookBehinds : Node → List Node
  | empty | char _ | charExcept _ | any | charClass _ _ | anchor _ | sameAs _ _ => []
  | seq a b | alt a b | ifCaptured _ a b => a.lookBehinds ++ b.lookBehinds
  | repeated _ _ _ a | capture _ a | ahead _ a | atomic a | within _ a => a.lookBehinds
  | behind _ a => a :: a.lookBehinds

/-- Expressions in sequence. -/
def ofList : List Node → Node
  | [] => empty
  | a :: rest => seq a (ofList rest)

/-- The expressions that stand in sequence. -/
def items : Node → List Node
  | empty => []
  | seq a b => a.items ++ b.items
  | a => [a]

end Node

end CardQuery.Regex

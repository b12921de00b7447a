import CardQuery.Regex.Syntax
import CardQuery.Text.Blank
import CardQuery.Text.CaseClass
import CardQuery.Text.Digit
import CardQuery.Text.Word

/-!
# Regex/Matching — matching a pattern against a text

`Node.run` tries the ways to match an expression at a cursor, in order, and hands each to a
continuation until one succeeds; this is backtracking, written as structural recursion on the
expression.  A round of a repetition that matched the empty text is the last one, so that the number
of rounds is bounded by what is left of the text.
-/

namespace CardQuery.Regex

/-! ## Characters -/

/-- The lower-case form of an ASCII letter. -/
def asciiLower (code : Nat) : Nat := if 0x41 ≤ code && code ≤ 0x5A then code + 32 else code

/-- The form that two characters share if they are the same letter, whatever its case. -/
def Mode.key (m : Mode) (code : Nat) : Nat :=
  if !m.caseless then code else if m.ascii then asciiLower code else Text.caseKey code

/-- The characters that are the same letter. -/
def Mode.variants (m : Mode) (code : Nat) : List Nat :=
  if !m.caseless then [code]
  else if m.ascii then
    let low := asciiLower code
    if 0x61 ≤ low && low ≤ 0x7A then [low, low - 32] else [low]
  else Text.caseVariants code

/-- The lower-case form that a reference to a group compares. -/
def Mode.lowered (m : Mode) (code : Nat) : Nat :=
  if !m.caseless then code else if m.ascii then asciiLower code else Text.lowerCode code

/-- Whether a character belongs to a named class. -/
def Category.holds (ascii : Bool) (k : Category) (c : Char) : Bool :=
  (!ascii || c.toNat < 128) &&
    match k with
    | digit => Text.isDigit c
    | space => Text.isBlank c && !(ascii && 0x1C ≤ c.toNat && c.toNat ≤ 0x1F)
    | word => Text.isWordChar c

/-- Whether a character is admitted by an item of a class.  A single character outside of the basic
plane is compared with the lower-case form alone. -/
def ClassItem.admits (m : Mode) (c : Char) : ClassItem → Bool
  | one code =>
    if 0xFFFF < code then m.lowered c.toNat == code else m.key code == m.key c.toNat
  | range first last => (m.variants c.toNat).any fun v => first ≤ v && v ≤ last
  | category k negated => k.holds m.ascii c != negated

/-! ## Places -/

/-- A place in a text, with what the groups captured on the way to it. -/
structure Cursor where
  /-- What stands before the place, nearest first. -/
  before : List Char
  /-- What stands after the place. -/
  after : List Char
  /-- The number of characters before the place. -/
  place : Nat
  /-- The texts of the groups, the latest first. -/
  captures : List (Nat × List Char)

namespace Cursor

/-- The next place, if the character before it passes a test. -/
def step? (p : Char → Bool) (c : Cursor) : Option Cursor :=
  match c.after with
  | [] => none
  | x :: rest =>
    if p x then some { c with before := x :: c.before, after := rest, place := c.place + 1 }
    else none

/-- The place some characters earlier. -/
def back? (n : Nat) (c : Cursor) : Option Cursor :=
  if c.before.length < n then none
  else some { c with
    before := c.before.drop n
    after := (c.before.take n).reverse ++ c.after
    place := c.place - n }

/-- The text between two places. -/
def textTo (c d : Cursor) : List Char := c.after.take (d.place - c.place)

/-- The text that a group captured. -/
def captured? (c : Cursor) (group : Nat) : Option (List Char) := c.captures.lookup group

/-- The place with a captured text set. -/
def capture (c : Cursor) (group : Nat) (text : List Char) : Cursor :=
  { c with captures := (group, text) :: c.captures }

/-- The place after a text, compared by the lower-case forms of its characters. -/
def skip? (m : Mode) : List Char → Cursor → Option Cursor
  | [], c => some c
  | x :: rest, c => (c.step? fun y => m.lowered y.toNat == m.lowered x.toNat).bind (skip? m rest)

/-- Whether a word character stands first in a list. -/
def headIsWord (ascii : Bool) (s : List Char) : Bool := s.head?.any (Category.word.holds ascii)

/-- Whether a place lies between a word character and another one, or an end. -/
def isEdge (ascii : Bool) (c : Cursor) : Bool :=
  headIsWord ascii c.before != headIsWord ascii c.after

/-- Whether a text has no characters. -/
def isVoid (c : Cursor) : Bool := c.before.isEmpty && c.after.isEmpty

/-- Whether a condition on a place holds.  Neither condition on words holds in an empty text. -/
def holds (m : Mode) (c : Cursor) : Anchor → Bool
  | .lineStart => c.before.isEmpty || (m.multiline && c.before.head? == some '\n')
  | .lineEnd =>
    c.after.isEmpty || c.after == ['\n'] || (m.multiline && c.after.head? == some '\n')
  | .textStart => c.before.isEmpty
  | .textEnd => c.after.isEmpty
  | .wordEdge => !c.isVoid && c.isEdge m.ascii
  | .wordInside => !c.isVoid && !c.isEdge m.ascii

end Cursor

/-! ## Expressions -/

/-- What is to be matched after an expression. -/
abbrev Continuation := Cursor → Option Cursor

/-- A number of rounds of a step, and then the continuation. -/
def rounds (step : Continuation → Continuation) : Nat → Continuation → Continuation
  | 0, k => k
  | n + 1, k => step (rounds step n k)

/-- Further rounds of a step, as many as there is room for, the most first. -/
def mostRounds (step : Continuation → Continuation) (k : Continuation) :
    Nat → Option Nat → Continuation
  | 0, _, c => k c
  | bound + 1, room, c =>
    if room = some 0 then k c
    else
      match step (fun d => if d.place = c.place then k d
          else mostRounds step k bound (room.map (· - 1)) d) c with
      | some d => some d
      | none => k c

/-- Further rounds of a step, as few as possible. -/
def leastRounds (step : Continuation → Continuation) (k : Continuation) :
    Nat → Option Nat → Continuation
  | 0, _, c => k c
  | bound + 1, room, c =>
    match k c with
    | some d => some d
    | none =>
      if room = some 0 then none
      else step (fun d => if d.place = c.place then k d
        else leastRounds step k bound (room.map (· - 1)) d) c

/-- **The first way to match an expression at a place and to go on from there.** -/
def Node.run : Node → Mode → Continuation → Continuation
  | empty, _, k, c => k c
  | char code, m, k, c => (c.step? fun x => m.key code == m.key x.toNat).bind k
  | charExcept code, m, k, c => (c.step? fun x => m.key code != m.key x.toNat).bind k
  | any, m, k, c => (c.step? fun x => m.dotAll || x != '\n').bind k
  | charClass negated items, m, k, c =>
    (c.step? fun x => items.any (·.admits m x) != negated).bind k
  | anchor a, m, k, c => if c.holds m a then k c else none
  | seq a b, m, k, c => a.run m (b.run m k) c
  | alt a b, m, k, c =>
    match a.run m k c with
    | some d => some d
    | none => b.run m k c
  | repeated least most greed body, m, k, c =>
    let room := most.map (· - least)
    let more (k : Continuation) : Continuation :=
      rounds (body.run m) least fun d =>
        mostRounds (body.run m) k (d.after.length + 1) room d
    match greed with
    | .greedy => more k c
    | .lazy =>
      rounds (body.run m) least
        (fun d => leastRounds (body.run m) k (d.after.length + 1) room d) c
    | .possessive => (more some c).bind k
  | capture group body, m, k, c => body.run m (fun d => k (d.capture group (c.textTo d))) c
  | sameAs group _, m, k, c =>
    match c.captured? group with
    | none => none
    | some text => (Cursor.skip? m text c).bind k
  | ahead negated body, m, k, c =>
    match body.run m some c with
    | some d => if negated then none else k { c with captures := d.captures }
    | none => if negated then k c else none
  | behind negated body, m, k, c =>
    match (c.back? body.width.least).bind (body.run m some) with
    | some d => if negated then none else k { c with captures := d.captures }
    | none => if negated then k c else none
  | atomic body, m, k, c => (body.run m some c).bind k
  | within change body, m, k, c => body.run (m.apply change) k c
  | ifCaptured group yes no, m, k, c =>
    if (c.captured? group).isSome then yes.run m k c else no.run m k c

/-- Whether an expression matches from a place on, or from a later one; captures start afresh at
every place. -/
def Node.findFrom (node : Node) (m : Mode) : List Char → List Char → Nat → Bool
  | before, [], place => (node.run m some ⟨before, [], place, []⟩).isSome
  | before, x :: rest, place =>
    (node.run m some ⟨before, x :: rest, place, []⟩).isSome
      || node.findFrom m (x :: before) rest (place + 1)

/-- Whether an expression matches somewhere in a text. -/
def Node.find (node : Node) (m : Mode) (s : List Char) : Bool := node.findFrom m [] s 0

end CardQuery.Regex

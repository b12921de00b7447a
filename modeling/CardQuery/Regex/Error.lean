import CardQuery.Text.Quoted

/-!
# Regex/Error — what can be wrong with a pattern

A pattern that cannot be read is refused with a `Complaint` and the place where it arose.  In a
pattern of several lines the place is also told by line and column.

Some patterns are refused without a complaint: those with a repetition count beyond all bounds or
with too many digits, those that look back too far, and those that ask for ASCII classes and for full
classes at once.
-/

namespace CardQuery.Regex

/-- What is wrong with a pattern. -/
inductive Complaint where
  | unterminatedClass
  | unterminatedGroup
  | unterminatedComment
  | unbalancedParenthesis
  | nothingToRepeat
  | multipleRepeat
  | crossedRepeat
  | badRange (first last : String)
  | badEscape (escape : String)
  | endsInEscape
  | incompleteEscape (escape : String)
  | octalTooLarge (escape : String)
  | noSuchGroup (group : Nat)
  | openGroup
  | sameLookBehind
  | noSuchName (name : String)
  | badName (name : String)
  | repeatedName (name : String) (group former : Nat)
  | badGroupNumber
  | missing (what : String)
  | unterminatedName (closing : Char)
  | noSuchCharacterName (name : String)
  | unexpectedEnd
  | unknownExtension (mark : String)
  | lateMode
  | unknownMode
  | badModes (reason : String)
  | manyBranches
  | variableLookBehind
deriving DecidableEq, Repr

/-- A complaint in words. -/
def Complaint.text : Complaint → String
  | unterminatedClass => "unterminated character set"
  | unterminatedGroup => "missing ), unterminated subpattern"
  | unterminatedComment => "missing ), unterminated comment"
  | unbalancedParenthesis => "unbalanced parenthesis"
  | nothingToRepeat => "nothing to repeat"
  | multipleRepeat => "multiple repeat"
  | crossedRepeat => "min repeat greater than max repeat"
  | badRange first last => "bad character range " ++ first ++ "-" ++ last
  | badEscape escape => "bad escape " ++ escape
  | endsInEscape => "bad escape (end of pattern)"
  | incompleteEscape escape => "incomplete escape " ++ escape
  | octalTooLarge escape => "octal escape value " ++ escape ++ " outside of range 0-0o377"
  | noSuchGroup group => "invalid group reference " ++ toString group
  | openGroup => "cannot refer to an open group"
  | sameLookBehind => "cannot refer to group defined in the same lookbehind subpattern"
  | noSuchName name => "unknown group name " ++ Text.quoted name
  | badName name => "bad character in group name " ++ Text.quoted name
  | repeatedName name group former =>
    "redefinition of group name " ++ Text.quoted name ++ " as group " ++ toString group
      ++ "; was group " ++ toString former
  | badGroupNumber => "bad group number"
  | missing what => "missing " ++ what
  | unterminatedName closing => "missing " ++ String.singleton closing ++ ", unterminated name"
  | noSuchCharacterName name => "undefined character name " ++ Text.quoted name
  | unexpectedEnd => "unexpected end of pattern"
  | unknownExtension mark => "unknown extension ?" ++ mark
  | lateMode => "global flags not at the start of the expression"
  | unknownMode => "unknown flag"
  | badModes reason => "bad inline flags: " ++ reason
  | manyBranches => "conditional backref with more than two branches"
  | variableLookBehind => "look-behind requires fixed-width pattern"

/-- A complaint about a pattern, with its place if it has one. -/
structure Error where
  complaint : Complaint
  place : Option Nat
  pattern : String
deriving DecidableEq, Repr

/-- The line and the column of a place: lines count from one, and so do columns except on the first
line break itself. -/
def lineAndColumn (pattern : List Char) (place : Nat) : Nat × Nat :=
  let before := pattern.take place
  ((before.filter (· == '\n')).length + 1, (before.reverse.takeWhile (· != '\n')).length + 1)

/-- An error in words. -/
def Error.message (e : Error) : String :=
  match e.place with
  | none => e.complaint.text
  | some place =>
    let located := e.complaint.text ++ " at position " ++ toString place
    if e.pattern.toList.contains '\n' then
      let (line, column) := lineAndColumn e.pattern.toList place
      located ++ " (line " ++ toString line ++ ", column " ++ toString column ++ ")"
    else located

/-- Why a pattern is refused. -/
inductive Refusal where
  | malformed (e : Error)
  | countTooLarge
  | longNumeral (digits : Nat)
  | farLookBehind
  | crossedAlphabets
  | unknownFlag (flag : Char)
deriving DecidableEq, Repr

end CardQuery.Regex

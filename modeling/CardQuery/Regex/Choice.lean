import CardQuery.Regex.Syntax

/-!
# Regex/Choice — choices between branches

`Node.choice` makes one expression of several branches.  What all branches begin with is matched
once, before the choice, and a choice between single characters and classes is a class.
-/

namespace CardQuery.Regex

namespace Node

/-- Whether two items are the same simple one.  Items with parts of their own are told apart. -/
def sameItem : Node → Node → Bool
  | char a, char b => a == b
  | charExcept a, charExcept b => a == b
  | any, any => true
  | charClass n as, charClass m bs => n == m && as == bs
  | anchor a, anchor b => a == b
  | sameAs g _, sameAs h _ => g == h
  | _, _ => false

/-- The items that all branches begin with, and what is left of each branch. -/
def splitCommon : List Node → List (List Node) → List Node × List (List Node)
  | [], rest => ([], [] :: rest)
  | a :: first, rest =>
    if rest.all fun b => b.head?.any a.sameItem then
      let (common, left) := splitCommon first (rest.map List.tail)
      (a :: common, left)
    else ([], (a :: first) :: rest)

/-- The items of the class that a branch stands for, if it is a single character or a class. -/
def classItems? : List Node → Option (List ClassItem)
  | [char code] => some [.one code]
  | [charClass false items] => some items
  | _ => none

/-- Branches tried one after the other. -/
def inOrder : List Node → Node
  | [] => empty
  | [a] => a
  | a :: rest => alt a (inOrder rest)

/-- **The choice between branches.** -/
def choice : List Node → Node
  | [] => empty
  | [a] => a
  | first :: rest =>
    let (common, left) := splitCommon first.items (rest.map items)
    let chosen :=
      match left.mapM classItems? with
      | some classes => charClass false classes.flatten.eraseDups
      | none => inOrder (left.map ofList)
    ofList (common ++ [chosen])

end Node

end CardQuery.Regex

/-!
# Comparison — the comparison operators

A query compares a field with a value by one of seven operators.  What `:` means depends on the
field: it is containment for texts, superset for colors and equality for numbers.  Where values are
ordered, `CompareOp.admits` reads every operator off the outcome of one comparison.
-/

namespace CardQuery

/-- A comparison operator. -/
inductive CompareOp where
  | colon | eq | ne | lt | le | gt | ge
deriving DecidableEq, Repr

namespace CompareOp

/-- All operators. -/
def all : List CompareOp := [colon, eq, ne, lt, le, gt, ge]

/-- An operator as it is written. -/
def text : CompareOp → String
  | colon => ":"
  | eq => "="
  | ne => "!="
  | lt => "<"
  | le => "<="
  | gt => ">"
  | ge => ">="

/-- The operator that a text writes. -/
def ofText? (s : String) : Option CompareOp := all.find? (·.text == s)

/-- The operators that only ask for equality. -/
def isEquality : CompareOp → Bool
  | colon | eq | ne => true
  | _ => false

/-- Whether an operator is satisfied by the outcome of a comparison; `none` is the outcome for
values that do not compare, which are not equal to each other. -/
def admits : CompareOp → Option Ordering → Bool
  | colon, o | eq, o => o == some .eq
  | ne, o => o != some .eq
  | lt, o => o == some .lt
  | le, o => o == some .lt || o == some .eq
  | gt, o => o == some .gt
  | ge, o => o == some .gt || o == some .eq

end CompareOp

end CardQuery

import CardQuery.Fault
import CardQuery.Query.Basic

/-!
# Query/Hash — hashes of queries

A query can be a member of a set, which finds it by its hash.  How texts, sets of colors and
sequences are hashed is up to a `Hasher`.  Numbers are hashed by what they come to modulo the prime
`2 ^ 61 - 1`, a fraction by the quotient there, so that a number has one hash however it is written.

A text that is an array or an object has no hash, and neither has a query that holds one.
-/

namespace CardQuery

/-- How what is no number is hashed. -/
structure Hasher where
  /-- The hash of a text. -/
  text : String → Int
  /-- The hash of a set of colors. -/
  colors : ColorSet → Int
  /-- The hash of a sequence, from the hashes of its items. -/
  sequence : List Int → Int
  /-- The hash of the null value. -/
  null : Int
  /-- The hash of a NaN. -/
  nan : Int

/-- The prime that numbers are hashed by. -/
def hashModulus : Nat := 1 <<< 61 - 1

/-- The hash of a whole number: its remainder with its sign, where `-1` gives way to `-2`. -/
def hashWhole (n : Int) : Int :=
  let size : Int := (n.natAbs % hashModulus : Nat)
  let h := if n < 0 then -size else size
  if h = -1 then -2 else h

/-- The hash of a double.  Modulo the prime, `2 ^ 24` is one over the number of units per one. -/
def Double.hashBy (h : Hasher) : Double → Int
  | .nan => h.nan
  | .infinite negative => if negative then -314159 else 314159
  | x@(.finite ..) => hashWhole (x.signedUnits * (1 <<< 24 : Nat))

/-- The hash of a JSON value. -/
def Json.hashBy (h : Hasher) : Json → Except Fault Int
  | .null => .ok h.null
  | .bool b => .ok (hashWhole (if b then 1 else 0))
  | .int n => .ok (hashWhole n)
  | .double x => .ok (x.hashBy h)
  | .string s => .ok (h.text s)
  | .array _ | .object _ => .error .wrongKind

namespace Value

/-- The hashes of what a value holds. -/
def heldHashes (h : Hasher) : Value → Except Fault (List Int)
  | text content => do return [← content.hashBy h]
  | number x => .ok [x.hashBy h]
  | keyword word => .ok [h.text word]
  | colors set => .ok [h.colors set]
  | pattern p => .ok [h.text p.source, h.text p.flags]

/-- The hash of a value: of the name of its kind and of what it holds. -/
def hashBy (h : Hasher) (v : Value) : Except Fault Int := do
  return h.sequence (h.text v.kindName :: (← v.heldHashes h))

end Value

namespace Query

/-- **The hash of a query**: of the name of its kind and of its parts. -/
def hashBy (h : Hasher) : Query → Except Fault Int
  | q@(compare field op value) => do
    return h.sequence [h.text q.kindName, h.text field.key, h.text op.text, ← value.hashBy h]
  | q@(term content) => do return h.sequence [h.text q.kindName, ← content.hashBy h]
  | q@(pattern p) => do return h.sequence [h.text q.kindName, ← (Value.pattern p).hashBy h]
  | q@(and left right) | q@(or left right) => do
    return h.sequence [h.text q.kindName, ← left.hashBy h, ← right.hashBy h]
  | q@(not operand) => do return h.sequence [h.text q.kindName, ← operand.hashBy h]

end Query

end CardQuery

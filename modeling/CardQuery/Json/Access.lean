import CardQuery.Fault
import CardQuery.Json.Basic

/-!
# Json/Access — asking a value for its parts

Records and stored queries come as JSON of any shape.  The accessors here give the part of a value
that is asked for, or the fault that says why there is none.
-/

namespace CardQuery.Json

/-- The members of an object. -/
def asMembers : Json → Except Fault (List (String × Json))
  | .object members => .ok members
  | _ => .error .noSuchPart

/-- A member of an object, null if it is missing. -/
def get (key : String) (j : Json) : Except Fault Json := do
  return (find? key (← j.asMembers)).getD .null

/-- A member of an object that has to be there. -/
def require (key : String) (j : Json) : Except Fault Json := do
  match find? key (← j.asMembers) with
  | some value => return value
  | none => throw (.missingKey (Text.quoted key))

/-- A text. -/
def asText : Json → Except Fault String
  | .string s => .ok s
  | _ => .error .noSuchPart

/-- What a value is made of, one after the other: the items of an array, the characters of a text,
or the keys of an object. -/
def items : Json → Except Fault (List Json)
  | .array items => .ok items
  | .string s => .ok (s.toList.map fun c => .string (String.singleton c))
  | .object members => .ok (members.map fun (key, _) => .string key)
  | _ => .error .wrongKind

/-- A value, or another one if it does not count as true. -/
def orElse (a b : Json) : Json := if a.isTruthy then a else b

end CardQuery.Json

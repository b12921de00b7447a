import CardQuery.Number.Notation
import CardQuery.Text.Quoted

/-!
# Json/Basic — documents and the values in them

A document is a tree of JSON values.  Whole numbers and doubles are kept apart, as they are written
apart, and an object keeps its members in the order in which they were first written.

Two notions are used wherever loosely typed data is read: a value *counts as true* unless it is
null, false, a zero or empty, and two values are the *same* if they agree as values, so that `1`,
`1.0` and `true` are the same and the order of an object's members does not matter.
-/

namespace CardQuery

/-- A JSON value. -/
inductive Json where
  | null
  | bool (b : Bool)
  | int (n : Int)
  | double (x : Double)
  | string (s : String)
  | array (items : List Json)
  | object (members : List (String × Json))

namespace Json

instance : Inhabited Json := ⟨null⟩

/-- The value of a member in a list of members. -/
def find? (key : String) : List (String × Json) → Option Json
  | [] => none
  | (k, v) :: rest => if k = key then some v else find? key rest

/-- Members with one of them set: a new one comes last, an old one keeps its place. -/
def put (key : String) (value : Json) : List (String × Json) → List (String × Json)
  | [] => [(key, value)]
  | (k, v) :: rest => if k = key then (k, value) :: rest else (k, v) :: put key value rest

/-- An object from members in the order in which they were written; of two members with one key the
later one holds. -/
def ofMembers (members : List (String × Json)) : Json :=
  .object (members.foldl (fun acc (k, v) => put k v acc) [])

/-- Whether a value counts as true. -/
def isTruthy : Json → Bool
  | .null => false
  | .bool b => b
  | .int n => n != 0
  | .double x => !x.same (Double.zero false)
  | .string s => s != ""
  | .array items => !items.isEmpty
  | .object members => !members.isEmpty

/-- Whether a value can be a key or a member of a set: arrays and objects cannot. -/
def isKey : Json → Bool
  | .array _ | .object _ => false
  | _ => true

/-- The number that a value stands for, exactly. -/
inductive Quantity where
  | whole (n : Int)
  | double (x : Double)

/-- The number that a value stands for; the truth values stand for one and zero. -/
def quantity? : Json → Option Quantity
  | .bool b => some (.whole (if b then 1 else 0))
  | .int n => some (.whole n)
  | .double x => some (.double x)
  | _ => none

/-- How a whole number compares with a double. -/
def orderWhole? (n : Int) : Double → Option Ordering
  | .nan => none
  | .infinite negative => some (if negative then .gt else .lt)
  | x@(.finite ..) => some (compare (n * Double.unitsPerOne) x.signedUnits)

/-- How two numbers compare; nothing compares with a NaN. -/
def Quantity.order? : Quantity → Quantity → Option Ordering
  | .whole m, .whole n => some (compare m n)
  | .whole m, .double y => orderWhole? m y
  | .double x, .whole n => (orderWhole? n x).map Ordering.swap
  | .double x, .double y => x.order? y

mutual

/-- Whether two values agree. -/
def same : Json → Json → Bool
  | .null, .null => true
  | .string s, .string t => s == t
  | .array xs, .array ys => sameItems xs ys
  | .object ms, .object ns => ms.length == ns.length && sameMembers ms ns
  | a, b =>
    match quantity? a, quantity? b with
    | some m, some n => m.order? n == some .eq
    | _, _ => false

/-- Whether two lists of values agree item by item. -/
def sameItems : List Json → List Json → Bool
  | [], [] => true
  | x :: xs, y :: ys => same x y && sameItems xs ys
  | _, _ => false

/-- Whether every member is found, with an agreeing value, among others. -/
def sameMembers : List (String × Json) → List (String × Json) → Bool
  | [], _ => true
  | (k, v) :: rest, ns =>
    (match find? k ns with
      | some w => same v w
      | none => false) && sameMembers rest ns

end

mutual

/-- A value as messages show it. -/
def shown : Json → List Char
  | .null => "None".toList
  | .bool b => (if b then "True" else "False").toList
  | .int n => (toString n).toList
  | .double x => x.text.toList
  | .string s => (Text.quoted s).toList
  | .array items => '[' :: shownItems items ++ [']']
  | .object members => '\x7b' :: shownMembers members ++ ['\x7d']

/-- Items as messages show them, with a comma and a blank between. -/
def shownItems : List Json → List Char
  | [] => []
  | [x] => shown x
  | x :: xs => shown x ++ ',' :: ' ' :: shownItems xs

/-- Members as messages show them. -/
def shownMembers : List (String × Json) → List Char
  | [] => []
  | [(k, v)] => (Text.quoted k).toList ++ ':' :: ' ' :: shown v
  | (k, v) :: rest =>
    (Text.quoted k).toList ++ ':' :: ' ' :: shown v ++ ',' :: ' ' :: shownMembers rest

end

/-- A value as messages show it. -/
def display (j : Json) : String := String.ofList j.shown

/-- The text of a value: a string is its own text, and any other value is shown. -/
def text : Json → String
  | .string s => s
  | j => j.display

end Json

end CardQuery

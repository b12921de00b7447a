import CardQuery.Calendar
import CardQuery.Fault
import CardQuery.Flag
import CardQuery.Number.Numeral
import CardQuery.Query.Basic
import CardQuery.Query.Token
import CardQuery.Rarity

/-!
# Query/Operand — the values of comparisons

A field takes values of the kind that it is compared by, and `Value.ofToken` makes one of a token: a
number for a numeric field, colors or their number for a color field, a date, a rarity or a known
property as a keyword, and a text for all others.  Stats also take a star, and fields with texts also
take a pattern.

Patterns come from a `Pattern.Maker`, so that a caller may remember those that were made.
-/

namespace CardQuery

/-- Why a token gives no value: something is wrong with the query, or there is no room for it. -/
inductive Cause where
  | problem (p : Problem)
  | fault (f : Fault)
deriving DecidableEq, Repr

/-- A pattern that cannot be read is a problem of the query; one that is refused for another reason
is a fault. -/
def Cause.ofRefusal : Regex.Refusal → Cause
  | .malformed e => .problem (.badPattern e)
  | r => .fault (.ofRefusal r)

/-- The pattern of a token. -/
def Pattern.ofToken {m : Type → Type} [Monad m] (make : Maker m) (source flags : String) :
    ExceptT Cause m Pattern :=
  ExceptT.mk do return (← make source flags).mapError Cause.ofRefusal

namespace Value

/-- The number of a numeral. -/
def numberOfText (text : String) : Except Cause Value :=
  match readDouble? text with
  | some x => .ok (.number x)
  | none => .error (.fault (.badValue (.notNumber text)))

/-- The value of a numeric field. -/
def numericOfText (field : Field) (text : String) : Except Cause Value :=
  if isPlainNumeral (Text.trim text).toList then numberOfText text
  else .error (.problem (.notNumber field text))

/-- The value of a date field. -/
def dateOfText (field : Field) (text : String) : Except Cause Value :=
  match Date.read? text with
  | some d => .ok (.keyword d.text)
  | none => .error (.problem (.notDate field text))

/-- The value of a color field: a text of digits is a number of colors. -/
def colorOfText (text : String) : Except Cause Value :=
  if text != "" && text.toList.all Text.isDigit then numberOfText text
  else .ok (.colors (ColorSet.read text))

/-- The value of a rarity field. -/
def rarityOfText (text : String) : Except Cause Value :=
  match Rarity.read? text with
  | some r => .ok (.keyword r.name)
  | none => .error (.problem (.unknownRarity text))

/-- The value of a field of properties. -/
def flagOfText (field : Field) (text : String) : Except Cause Value :=
  if (Flag.named? (Text.lower text)).isSome then .ok (.ofWord text)
  else .error (.problem (.unknownFlag field text))

/-- The value of a field, by its kind. -/
def ofText (field : Field) (text : String) : Except Cause Value :=
  match field.kind with
  | .numeric => numericOfText field text
  | .date => dateOfText field text
  | .color => colorOfText text
  | .rarity => rarityOfText text
  | .legality => .ok (.ofWord text)
  | .flag => flagOfText field text
  | .text | .discrete | .list => .ok (.text (.string text))

/-- The value that a word or a quotation gives a field under an operator. -/
def ofWritten (field : Field) (op : CompareOp) (text : String) : Except Cause Value :=
  if text == "*" && field.isStat then
    if op.isEquality then .ok (.keyword "*") else .error (.problem (.orderedStar field))
  else ofText field text

/-- **The value that a token gives a field under an operator.** -/
def ofToken {m : Type → Type} [Monad m] (make : Pattern.Maker m) (field : Field) (op : CompareOp)
    (t : Token) : ExceptT Cause m Value :=
  match t.kind with
  | .pattern flags =>
    if field.kind.takesPattern then return .pattern (← Pattern.ofToken make t.text flags)
    else throw (.problem (.unsupportedPattern field))
  | _ => ExceptT.mk (pure (ofWritten field op t.text))

end Value

end CardQuery

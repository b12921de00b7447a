import CardQuery.Query.Rejection

/-!
# Fault — why a request cannot be carried out

A query may be no query (`Fault.rejected`).  A stored query, a card record or a setting may have any
shape, so that reading or using it can fail in other ways: a member is missing, a value is not of
the kind that is called for, a number has no room.  The cause of every failure is a `Fault`, and
those that a person should be told about have a message.
-/

namespace CardQuery

/-- A value of the right kind that means nothing. -/
inductive BadValue where
  /-- A text that is no number. -/
  | notNumber (text : String)
  /-- A letter that is no flag of a pattern. -/
  | unknownFlag (flag : Char)
  /-- A pattern that asks for ASCII classes and for full ones. -/
  | crossedAlphabets
  /-- A count with too many digits. -/
  | longNumeral (digits : Nat)
  /-- A stored value without a known type; the type is shown. -/
  | unknownValueType (shown : String)
  /-- A stored query without a known type; the type is shown. -/
  | unknownQueryType (shown : String)
  /-- A stored pattern that holds another value, which is shown. -/
  | notPattern (shown : String)
  /-- A shown value that is none of an enumeration. -/
  | notAmong (shown enumeration : String)
  /-- An item of a table that is no pair of a key and a value. -/
  | notPair (index size : Nat)
  /-- A setting that is no whole number. -/
  | settingNotInteger (setting text : String)
  /-- A setting that is not positive. -/
  | settingNotPositive (setting : String) (value : Int)
deriving DecidableEq, Repr

/-- A meaningless value in words. -/
def BadValue.message : BadValue → String
  | notNumber text => "could not convert string to float: " ++ Text.quoted text
  | unknownFlag flag => "Unknown regex flag " ++ Text.quoted (String.singleton flag)
  | crossedAlphabets => "ASCII and UNICODE flags are incompatible"
  | longNumeral digits =>
    "Exceeds the limit (4300 digits) for integer string conversion: value has " ++ toString digits
      ++ " digits; use sys.set_int_max_str_digits() to increase the limit"
  | unknownValueType shown => "Unknown value type: " ++ shown
  | unknownQueryType shown => "Unknown node type: " ++ shown
  | notPattern shown => "bare_regex needs a regex value, got " ++ shown
  | notAmong shown enumeration => shown ++ " is not a valid " ++ enumeration
  | notPair index size =>
    "dictionary update sequence element #" ++ toString index ++ " has length " ++ toString size
      ++ "; 2 is required"
  | settingNotInteger setting text => setting ++ " must be an integer, got " ++ Text.quoted text
  | settingNotPositive setting value => setting ++ " must be positive, got " ++ toString value

/-- Why a request cannot be carried out. -/
inductive Fault where
  /-- A text is no query. -/
  | rejected (r : Rejection)
  /-- A value lacks the part or the operation that is asked of it. -/
  | noSuchPart
  /-- A value is not of a kind that an operation takes. -/
  | wrongKind
  /-- Something that is no query is evaluated. -/
  | notEvaluable (kind : String)
  /-- Colors are compared with another value, which is shown. -/
  | notColors (shown : String)
  /-- A key is not found; it is shown. -/
  | missingKey (shown : String)
  /-- A value means nothing. -/
  | badValue (v : BadValue)
  /-- A number has no room. -/
  | tooLarge
  /-- A pattern looks back too far. -/
  | tooFarBack
  /-- A pattern cannot be read. -/
  | badPattern (e : Regex.Error)
  /-- A document cannot be read. -/
  | malformedDocument
  /-- A file is not there. -/
  | missingFile
  /-- A file is a directory. -/
  | directory
deriving DecidableEq, Repr

namespace Fault

/-- What a person is told about a fault. -/
def message? : Fault → Option String
  | rejected r => some r.problem.message
  | notEvaluable kind => some ("Cannot evaluate node of type " ++ kind)
  | notColors shown => some ("Color comparison needs a color set, got " ++ shown)
  | missingKey shown => some shown
  | badValue v => some v.message
  | badPattern e => some e.message
  | noSuchPart | wrongKind | tooLarge | tooFarBack | malformedDocument | missingFile
  | directory => none

/-- The fault of a pattern that is refused. -/
def ofRefusal : Regex.Refusal → Fault
  | .malformed e => .badPattern e
  | .countTooLarge => .tooLarge
  | .longNumeral digits => .badValue (.longNumeral digits)
  | .farLookBehind => .tooFarBack
  | .crossedAlphabets => .badValue .crossedAlphabets
  | .unknownFlag flag => .badValue (.unknownFlag flag)

end Fault

/-- A sequence of two steps comes to a result exactly if both steps do. -/
theorem bind_eq_ok_iff {ε α β : Type} {x : Except ε α} {f : α → Except ε β} {b : β} :
    x >>= f = .ok b ↔ ∃ a, x = .ok a ∧ f a = .ok b := by
  rcases x with e | a
  · exact ⟨nofun, fun ⟨_, h, _⟩ => nomatch h⟩
  · exact ⟨fun h => ⟨a, rfl, h⟩, fun ⟨_, h, hf⟩ => by cases h; exact hf⟩

theorem eq_ok_of_toOption {ε α : Type} {x : Except ε α} {a : α} (h : x.toOption = some a) :
    x = .ok a := by
  cases x with
  | error e => cases h
  | ok b => exact congrArg Except.ok (Option.some.inj h)

end CardQuery

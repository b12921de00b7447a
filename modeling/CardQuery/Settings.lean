import CardQuery.Fault
import CardQuery.Json.Access
import CardQuery.Number.Numeral
import CardQuery.Text.UpperCase

/-!
# Settings — what the environment configures

Whether queries are remembered, how many queries and patterns are, and the level of the log.  The
settings are read from variables of the environment; the switch and the level may be changed later,
the sizes may not.
-/

namespace CardQuery

/-- The settings. -/
structure Settings where
  /-- The switch for remembering queries, as it was set last. -/
  remembering : Json
  queryCapacity : Int
  patternCapacity : Int
  logLevel : String

/-- The variables of an environment. -/
abbrev Environment := List (String × String)

namespace Settings

/-- Whether a text switches something on. -/
def isOn (s : String) : Bool := ["true", "1", "yes"].contains (Text.lower s)

/-- A positive whole number from the environment, or a default. -/
def positive (env : Environment) (name : String) (default : Int) : Except Fault Int :=
  match env.lookup name with
  | none => .ok default
  | some text =>
    if Text.isBlankText text then .ok default
    else
      match readInteger? text with
      | none => .error (.badValue (.settingNotInteger name text))
      | some n => if n ≤ 0 then .error (.badValue (.settingNotPositive name n)) else .ok n

/-- **The settings of an environment.** -/
def ofEnvironment (env : Environment) : Except Fault Settings := do
  let remembering := isOn ((env.lookup "CARDSEARCH_ENABLE_PARSE_CACHE").getD "true")
  let queryCapacity ← positive env "CARDSEARCH_PARSE_CACHE_SIZE" 1024
  let patternCapacity ← positive env "CARDSEARCH_REGEX_CACHE_SIZE" 512
  let logLevel := Text.upper ((env.lookup "CARDSEARCH_LOG_LEVEL").getD "INFO")
  return ⟨.bool remembering, queryCapacity, patternCapacity, logLevel⟩

/-- The settings after an assignment.  A size cannot be assigned. -/
def assign (s : Settings) (name : String) (value : Json) : Except Fault Settings :=
  match name with
  | "enable_parse_cache" => .ok { s with remembering := value }
  | "log_level" => do return { s with logLevel := Text.upper (← value.asText) }
  | "parse_cache_size" | "regex_cache_size" => .error .noSuchPart
  | _ => .ok s

end Settings

end CardQuery

import CardQuery.Number.Numeral

/-!
# Arguments — the command line

The command takes a query, the path of a card file with `--cards`, and the options `--max-results`,
`--explain` and `--labels`; `--help` or `-h` asks for help.

A long option may be shortened as long as it is clear which one is meant, and its value may follow an
equals sign; two dashes there are dropped and leave the option without a value.

An argument that starts with a dash is an option, unless it is the dash alone, looks like a negative
number, has a space in it or stands after `--`.

Releases of these conventions differ.  Those before 3.11.8 are followed, as they are for the lengths
that patterns look back (`Regex.behindLimit`): an equals sign right after `-h` is passed over, letters
there have to ask for help again, and two dashes are no value after an equals sign either.
-/

namespace CardQuery

/-- The options. -/
inductive Switch where
  | help | cards | maxResults | explain | labels
deriving DecidableEq, Repr

namespace Switch

/-- The long options. -/
def long : List (String × Switch) :=
  [("--help", help), ("--cards", cards), ("--max-results", maxResults), ("--explain", explain),
    ("--labels", labels)]

/-- Whether an option takes a value. -/
def takesValue : Switch → Bool
  | cards | maxResults => true
  | help | explain | labels => false

end Switch

/-- How many cards are printed at most. -/
inductive Limit where
  | unlimited
  | count (n : Int)
  /-- A limit that was asked for without a number. -/
  | void
deriving DecidableEq, Repr

/-- What the command is asked to do. -/
structure Arguments where
  query : String
  /-- The path of the card file, unless the option has no value. -/
  cards : Option String
  maxResults : Limit
  explain : Bool
  labels : Bool
deriving DecidableEq, Repr

/-- Why the command does not run: help was asked for, or the arguments are wrong. -/
inductive UsageExit where
  | help
  | wrong
deriving DecidableEq, Repr

/-- The exit status of a command that does not run. -/
def UsageExit.status : UsageExit → Nat
  | help => 0
  | wrong => 2

/-- What an argument is. -/
inductive Argument where
  /-- A plain argument. -/
  | plain (s : String)
  /-- The separator after which all arguments are plain. -/
  | separator
  /-- An option, with a value that is attached to it. -/
  | option (s : Switch) (attached : Option String)
  /-- The short option for help with letters attached to it. -/
  | cluster (letters : List Char)
  /-- An option that is not known. -/
  | unknown
deriving DecidableEq, Repr

namespace Argument

/-- An argument cut at its first equals sign. -/
def cut (s : List Char) : List Char × Option String :=
  match s.dropWhile (· != '=') with
  | [] => (s, none)
  | _ :: value => (s.takeWhile (· != '='), some (String.ofList value))

/-- Whether a text looks like a negative number: digits with an optional fraction, or a fraction
alone, and possibly one line break at the end. -/
def isNegativeNumber (s : List Char) : Bool :=
  let s := if s.getLast? == some '\n' then s.dropLast else s
  match s with
  | '-' :: body =>
    let (whole, rest) := spanDigits body
    match rest with
    | [] => !whole.isEmpty
    | '.' :: fraction => !fraction.isEmpty && fraction.all Text.isDigit
    | _ => false
  | _ => false

/-- An argument that is no known option. -/
def otherwise (s : List Char) : Argument :=
  if isNegativeNumber s || s.contains ' ' then .plain (String.ofList s) else .unknown

/-- An argument with two dashes. -/
def ofLong (s : List Char) : Except UsageExit Argument :=
  let (name, value) := cut s
  match Switch.long.lookup (String.ofList name) with
  | some switch => .ok (.option switch value)
  | none =>
    match Switch.long.filter fun (known, _) => name.isPrefixOf known.toList with
    | [] => .ok (otherwise s)
    | [(_, switch)] => .ok (.option switch value)
    | _ => .error .wrong

/-- What an argument before the separator is. -/
def ofText (s : String) : Except UsageExit Argument :=
  match s.toList with
  | '-' :: '-' :: rest => ofLong ('-' :: '-' :: rest)
  | ['-', 'h'] => .ok (.option .help none)
  | ['-', 'h', '='] => .ok (.option .help (some ""))
  | '-' :: 'h' :: '=' :: letters | '-' :: 'h' :: letters => .ok (.cluster letters)
  | '-' :: c :: rest => .ok (otherwise ('-' :: c :: rest))
  | s => .ok (.plain (String.ofList s))

/-- What the arguments are. -/
def classify : List String → Except UsageExit (List Argument)
  | [] => .ok []
  | s :: rest =>
    if s == "--" then .ok (.separator :: rest.map .plain)
    else do
      let a ← ofText s
      return a :: (← classify rest)

/-- What letters after the short option for help come to: help, if all of them ask for it again. -/
def ofCluster (letters : List Char) : UsageExit := if letters.all (· == 'h') then .help else .wrong

end Argument

namespace Arguments

/-- The arguments read so far. -/
structure Progress where
  query : Option String
  cards : Option (Option String)
  maxResults : Limit
  explain : Bool
  labels : Bool
  /-- Whether there was an argument that has no place. -/
  surplus : Bool

/-- Nothing read so far. -/
def start : Progress := ⟨none, none, .unlimited, false, false, false⟩

/-- An option that takes a value. -/
def Progress.setValue (p : Progress) (s : Switch) (value : String) : Except UsageExit Progress :=
  match s with
  | .cards => .ok { p with cards := some (some value) }
  | .maxResults =>
    match readInteger? value with
    | some n => .ok { p with maxResults := .count n }
    | none => .error .wrong
  | .help | .explain | .labels => .error .wrong

/-- An option with the text that is attached to it for a value. -/
def Progress.setAttached (p : Progress) (s : Switch) (value : String) : Except UsageExit Progress :=
  if value != "--" then p.setValue s value
  else
    match s with
    | .cards => .ok { p with cards := some none }
    | .maxResults => .ok { p with maxResults := .void }
    | .help | .explain | .labels => .error .wrong

/-- An option that takes no value. -/
def Progress.set (p : Progress) : Switch → Except UsageExit Progress
  | .help => .error .help
  | .explain => .ok { p with explain := true }
  | .labels => .ok { p with labels := true }
  | .cards | .maxResults => .error .wrong

/-- Reads the arguments from left to right. -/
def readFrom (p : Progress) : List Argument → Except UsageExit Progress
  | [] => .ok p
  | .plain s :: .separator :: rest =>
    if p.query.isNone then readFrom { p with query := some s } rest
    else readFrom { p with surplus := true } rest
  | .plain s :: rest =>
    if p.query.isNone then readFrom { p with query := some s } rest
    else readFrom { p with surplus := true } rest
  | .separator :: rest =>
    match rest with
    | .plain s :: rest =>
      if p.query.isNone then readFrom { p with query := some s } rest
      else readFrom { p with surplus := true } rest
    | rest => readFrom { p with surplus := true } rest
  | .option s none :: rest =>
    if s.takesValue then
      match rest with
      | .plain value :: rest => do readFrom (← p.setValue s value) rest
      | _ => .error .wrong
    else do readFrom (← p.set s) rest
  | .option s (some value) :: rest =>
    if s.takesValue then do readFrom (← p.setAttached s value) rest
    else .error .wrong
  | .cluster letters :: _ => .error (Argument.ofCluster letters)
  | .unknown :: rest => readFrom { p with surplus := true } rest
termination_by args => args.length

/-- **The arguments of a command line.** -/
def parse (argv : List String) : Except UsageExit Arguments := do
  let p ← readFrom start (← Argument.classify argv)
  match p.query, p.cards with
  | some query, some cards =>
    if p.surplus then throw .wrong
    return ⟨query, cards, p.maxResults, p.explain, p.labels⟩
  | _, _ => throw .wrong

end Arguments

end CardQuery

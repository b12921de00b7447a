import CardQuery.Arguments
import CardQuery.Card.Record
import CardQuery.Json.Reader
import CardQuery.Query.Explanation
import CardQuery.Search

/-!
# Report — what the command prints

A run of the command prints the names of the matching cards, one on a line, with their color labels
if asked for and a description of the query before them if asked for.  A text that is no query is
reported with a line that points at the problem.  A run that meets a fault ends there, after what it
printed before.
-/

namespace CardQuery

/-- What a run printed, and how it ended. -/
structure Report where
  /-- The lines of the output. -/
  lines : List String
  /-- The lines of the error output. -/
  errors : List String
  /-- The exit status, or the fault that ended the run. -/
  ending : Except Fault Nat

/-- Lines as they are printed. -/
def printed (lines : List String) : String := String.join (lines.map (· ++ "\n"))

/-- Whether a limit is reached by a number of cards. -/
def Limit.reached (limit : Limit) (found : Nat) : Except Fault Bool :=
  match limit with
  | .unlimited => .ok false
  | .count n => .ok (n ≤ found)
  | .void => .error .wrongKind

namespace Report

/-- The line for a card. -/
def cardLine (labels : Bool) (c : Card) : String :=
  if labels then c.name.text ++ "\t" ++ (c.colorIdentity.getD .empty).label else c.name.text

/-- The lines for the matching cards, where `found` cards matched before, up to a limit or to the
first fault. -/
def listing (q : Query) (labels : Bool) (limit : Limit) (found : Nat) :
    List Card → List String × Except Fault Nat
  | [] => ([], .ok 0)
  | c :: rest =>
    match q.matches c with
    | .error fault => ([], .error fault)
    | .ok false => listing q labels limit found rest
    | .ok true =>
      match limit.reached (found + 1) with
      | .error fault => ([cardLine labels c], .error fault)
      | .ok true => ([cardLine labels c], .ok 0)
      | .ok false =>
        let (lines, ending) := listing q labels limit (found + 1) rest
        (cardLine labels c :: lines, ending)

/-- Whether a path has no names in it, so that it can only be that of a directory. -/
def isDirectory (path : String) : Bool :=
  (path.splitOn "/").all fun part => part == "" || part == "." || part == ".."

/-- The cards of the file with a path, whose text is given if it can be read. -/
def loadCards (path file : Option String) : Except Fault (List Card) :=
  match path, file with
  | none, _ => .error .noSuchPart
  | some path, none => .error (if isDirectory path then .directory else .missingFile)
  | some _, some text =>
    match Json.load? text with
    | none => .error .malformedDocument
    | some j => do (← j.items).mapM Card.ofRecord

/-- **The run of a command**, given the text of the card file if there is one. -/
def run (args : Arguments) (file : Option String) : Report :=
  match Query.parse args.query with
  | .error (.rejected r) =>
    ⟨[], ["error: " ++ r.problem.message, r.diagnostic.pointer], .ok 2⟩
  | .error fault => ⟨[], [], .error fault⟩
  | .ok q =>
    let head := if args.explain then ["Searching for cards where " ++ q.explain] else []
    match loadCards args.cards file with
    | .error fault => ⟨head, [], .error fault⟩
    | .ok cards =>
      let (lines, ending) := listing q args.labels args.maxResults 0 cards
      ⟨head ++ lines, [], ending⟩

end Report

end CardQuery

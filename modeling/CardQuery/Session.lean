import CardQuery.Query.Grammar
import CardQuery.Query.Stored
import CardQuery.Recent

/-!
# Session — searches that remember

A session remembers the queries that were parsed last and the patterns that were compiled last, so
that asking again costs nothing.  What is remembered never changes an answer: it is what parsing or
compiling would give.

A query that is not remembered is parsed, and its patterns are looked up or compiled in the order in
which they stand in it.  Failures are not remembered.  Remembering queries can be switched off, which
leaves those remembered so far where they are.
-/

namespace CardQuery

/-- What a session remembers. -/
structure Session where
  queries : Recent String Query
  patterns : Recent (String × String) Pattern
  /-- Whether queries are remembered. -/
  remembering : Bool

/-- What is asked of a session. -/
inductive Request where
  | search (query : String)
  | test (source flags text : String)
  | clear
  | remember (on : Bool)
deriving DecidableEq, Repr

/-- What a session answers. -/
inductive Answer where
  /-- The query that was found, and whether it was remembered. -/
  | query (q : Query) (reused : Bool)
  | matched (found : Bool)
  | done

namespace Recent

/-- The pattern with a source and flags, remembered or compiled.  Either way it becomes the latest;
what cannot be compiled changes nothing. -/
def pattern : Pattern.Maker (StateM (Recent (String × String) Pattern)) := fun source flags => do
  match (← get).get? (source, flags) with
  | some p =>
    modify (·.use (source, flags) p)
    return .ok p
  | none =>
    match Pattern.make source flags with
    | .ok p =>
      modify (·.use (source, flags) p)
      return .ok p
    | .error r => return .error r

end Recent

namespace Session

/-- A session that remembers nothing yet. -/
def empty (queryCapacity patternCapacity : Nat) : Session :=
  ⟨.empty queryCapacity, .empty patternCapacity, true⟩

/-- The pattern with a source and flags, with the session after it. -/
def pattern (s : Session) (source flags : String) : Except Regex.Refusal Pattern × Session :=
  let (made, patterns) := (Recent.pattern source flags).run s.patterns
  (made, { s with patterns })

/-- The query that a text writes, with the session after it was parsed. -/
def parse (s : Session) (query : String) : Except Fault Query × Session :=
  let (parsed, patterns) := (Query.parseWith Recent.pattern query).run.run s.patterns
  (parsed, { s with patterns })

/-- A search, with the session after it. -/
def search (s : Session) (query : String) : Except Fault Answer × Session :=
  match if s.remembering then s.queries.get? query else none with
  | some q => (.ok (.query q true), { s with queries := s.queries.use query q })
  | none =>
    match s.parse query with
    | (.ok q, after) =>
      (.ok (.query q false),
        if s.remembering then { after with queries := after.queries.use query q } else after)
    | (.error fault, after) => (.error fault, after)

/-- **The answer to a request, with the session after it.** -/
def answer (s : Session) : Request → Except Fault Answer × Session
  | .search query => s.search query
  | .test source flags text =>
    match s.pattern source flags with
    | (.ok p, after) => (.ok (.matched (p.matchesIn text)), after)
    | (.error r, after) => (.error (.ofRefusal r), after)
  | .clear => (.ok .done, { s with queries := s.queries.clear })
  | .remember on => (.ok .done, { s with remembering := on })

end Session

end CardQuery

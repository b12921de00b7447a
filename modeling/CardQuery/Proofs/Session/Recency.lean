import CardQuery.Proofs.Grammar.Tracing
import CardQuery.Proofs.Session.Transparency

/-!
# Proofs/Session/Recency — a session remembers what was used last

A `History` writes down what requests come to, the latest first and without any bound: the queries
that were accepted while queries were remembered, and the patterns that were compiled.

* `remembers_latest` — after any requests, a session remembers the latest distinct entries of the
  history, as many as it has room for, in the order of their last use.

The list of keys alone carries the induction (`Recent.Keeps`): using a key puts it first and drops
at most the last one, and the distinct entries of a log change in just that way.  Which patterns a
search compiles is read off its tokens (`Grammar.patternsMade`), since the remembered patterns are a
maker that logs.
-/

namespace CardQuery

/-! ## The latest entries of a log -/

section Latest

variable {κ : Type} [BEq κ]

/-- **The distinct entries of a log that were made last**, for a log with the latest entry first. -/
def latest (n : Nat) (log : List κ) : List κ := log.eraseDups.take n

theorem length_latest (n : Nat) (log : List κ) :
    (latest n log).length = min n log.eraseDups.length := List.length_take

variable [LawfulBEq κ]

/-- A key may be left out before or after the repetitions are.  The induction is on the length, as
the repetitions of the first key are filtered out first. -/
theorem eraseDups_filter (key : κ) : ∀ log : List κ,
    (log.filter (!· == key)).eraseDups = log.eraseDups.filter (!· == key)
  | [] => rfl
  | k :: log => by
    have hlen : (log.filter (!· == k)).length < (k :: log).length := by
      rw [List.length_cons]
      exact Nat.lt_succ_of_le (List.length_filter_le ..)
    have ih := eraseDups_filter key (log.filter (!· == k))
    rw [List.eraseDups_cons]
    by_cases hk : k = key
    · subst hk
      rw [List.filter_cons_of_neg (by simp), List.filter_cons_of_neg (by simp), ← ih,
        List.filter_filter]
      simp only [Bool.and_self]
    · rw [List.filter_cons_of_pos (by simpa using hk), List.filter_cons_of_pos (by simpa using hk),
        List.eraseDups_cons, ← ih, List.filter_filter, List.filter_filter]
      simp only [Bool.and_comm]
termination_by log => log.length
decreasing_by exact hlen

theorem nodup_eraseDups : ∀ log : List κ, log.eraseDups.Nodup
  | [] => List.nodup_nil
  | k :: log => by
    have hlen : (log.filter (!· == k)).length < (k :: log).length := by
      rw [List.length_cons]
      exact Nat.lt_succ_of_le (List.length_filter_le ..)
    rw [List.eraseDups_cons, List.nodup_cons]
    exact ⟨by simp, nodup_eraseDups _⟩
termination_by log => log.length
decreasing_by exact hlen

theorem nodup_latest (n : Nat) (log : List κ) : (latest n log).Nodup :=
  (nodup_eraseDups log).sublist (List.take_sublist ..)

/-- Among distinct entries, one more than are asked for is enough to leave one out. -/
theorem take_filter_take {l : List κ} (h : l.Nodup) (key : κ) (n : Nat) :
    ((l.take (n + 1)).filter (!· == key)).take n = (l.filter (!· == key)).take n := by
  induction l generalizing n with
  | nil => rfl
  | cons k l ih =>
    obtain ⟨hmem, hl⟩ := List.nodup_cons.mp h
    rw [List.take_succ_cons]
    by_cases hk : k = key
    · subst hk
      have hall (m : List κ) (hm : ∀ x ∈ m, x ∈ l) : m.filter (!· == k) = m := by
        refine List.filter_eq_self.mpr fun x hx => ?_
        have hne : x ≠ k := fun e => hmem (e ▸ hm x hx)
        simpa using hne
      rw [List.filter_cons_of_neg (by simp), List.filter_cons_of_neg (by simp),
        hall _ fun _ => List.mem_of_mem_take, hall l fun _ => id, List.take_take, Nat.min_self]
    · have hcons (m : List κ) : (k :: m).filter (!· == key) = k :: m.filter (!· == key) :=
        List.filter_cons_of_pos (by simpa using hk)
      rw [hcons, hcons]
      rcases n with _ | n
      · rfl
      · rw [List.take_succ_cons, List.take_succ_cons, ih hl n]

/-- **A new entry of a log** comes first, and is no longer where it was. -/
theorem latest_cons (n : Nat) (key : κ) (log : List κ) :
    latest n (key :: log) = (key :: (latest n log).filter (!· == key)).take n := by
  rcases n with _ | n
  · rfl
  · rw [latest, latest, List.eraseDups_cons, eraseDups_filter, List.take_succ_cons,
      List.take_succ_cons, take_filter_take (nodup_eraseDups log)]

end Latest

namespace Recent

section Keeps

variable {κ α : Type} [BEq κ]

/-- **The entries are those that a log made last**, as many as there is room for. -/
structure Keeps (r : Recent κ α) (room : Nat) (log : List κ) : Prop where
  capacity : r.capacity = room
  keys : r.keys = latest room log

theorem keys_use (r : Recent κ α) (key : κ) (value : α) :
    (r.use key value).keys = (key :: r.keys.filter (!· == key)).take r.capacity := by
  simp only [use, keys, List.map_take, List.map_cons, List.filter_map]
  rfl

variable {r : Recent κ α} {n : Nat} {log : List κ}

theorem keeps_empty (n : Nat) : (empty n : Recent κ α).Keeps n [] := ⟨rfl, List.take_nil.symm⟩

theorem Keeps.clear (h : r.Keeps n log) : r.clear.Keeps n [] := ⟨h.capacity, List.take_nil.symm⟩

/-- **Use makes an entry the latest.** -/
theorem Keeps.use [LawfulBEq κ] (h : r.Keeps n log) (key : κ) (value : α) :
    (r.use key value).Keeps n (key :: log) :=
  ⟨h.capacity, by rw [keys_use, h.keys, h.capacity, latest_cons]⟩

end Keeps

/-! ## Remembered patterns -/

/-- What is remembered of the patterns that were compiled: they are as made, and the latest. -/
structure Compiled (room : Nat) (r : Recent PatternKey Pattern) (log : List PatternKey) :
    Prop where
  made : r.Holds IsMade
  keeps : r.Keeps room log

/-- **The remembered patterns are a maker that logs.** -/
theorem pattern_logs (room : Nat) : Grammar.Logs Recent.pattern (Compiled room) where
  made {r log source flags p} h hp := by
    refine ⟨r.use (source, flags) p, ?_, h.made.use hp, h.keeps.use _ p⟩
    rw [run_pattern]
    rcases hget : r.get? (source, flags) with _ | p'
    · rw [hp]
    · have hp' : Pattern.make source flags = .ok p' := h.made.of_get? hget
      obtain rfl : p = p' := Except.ok.inj (hp.symm.trans hp')
      rw [hp]
  refused {r log source flags e} h he := by
    refine ⟨r, ?_, h⟩
    rw [run_pattern]
    rcases hget : r.get? (source, flags) with _ | p
    · rw [he]
    · have hp : Pattern.make source flags = .ok p := h.made.of_get? hget
      rw [he] at hp
      cases hp

end Recent

/-! ## What requests come to -/

/-- What was asked of a session, apart from any memory, the latest first. -/
structure History where
  /-- The accepted queries that were searched while queries were remembered, since the last time
  that memory was cleared. -/
  searched : List String
  /-- The patterns that were compiled, by tests and by the parses that were run. -/
  compiled : List PatternKey
  /-- Whether queries are remembered. -/
  remembering : Bool

namespace History

/-- Nothing was asked yet. -/
def empty : History := ⟨[], [], true⟩

/-- Whether a search needs no parse: queries are remembered, and this one is among the latest. -/
def recalls (capacity : Nat) (h : History) (text : String) : Bool :=
  h.remembering && (latest capacity h.searched).contains text

/-- The history after a request, of a session with room for a number of queries. -/
def next (capacity : Nat) (h : History) : Request → History
  | .search text =>
    { h with
      searched :=
        if h.remembering && (Query.parse text).toBool then text :: h.searched else h.searched
      compiled :=
        if h.recalls capacity text then h.compiled
        else (Grammar.patternsMade text).reverse ++ h.compiled }
  | .test source flags _ =>
    { h with
      compiled :=
        if (Pattern.make source flags).toBool then (source, flags) :: h.compiled
        else h.compiled }
  | .clear => { h with searched := [] }
  | .remember on => { h with remembering := on }

/-- The history after requests. -/
def after (capacity : Nat) (h : History) (requests : List Request) : History :=
  requests.foldl (next capacity) h

end History

/-! ## Sessions -/

namespace Session

/-- A search from memory runs no parse. -/
theorem search_of_get? {s : Session} {text : String} {q : Query} (hon : s.remembering = true)
    (hget : s.queries.get? text = some q) :
    s.search text = (.ok (.query q true), { s with queries := s.queries.use text q }) := by
  rw [search, if_pos hon, hget]

/-- Any other search runs one, and remembers the query if queries are remembered. -/
theorem search_of_not_reuses {s : Session} {text : String} (h : ¬ s.reuses text) :
    s.search text = match s.parse text with
      | (.ok q, after) => (.ok (.query q false),
          if s.remembering then { after with queries := after.queries.use text q } else after)
      | (.error fault, after) => (.error fault, after) := by
  have hnone : (if s.remembering then s.queries.get? text else none) = none := by
    split
    · rename_i hon
      rcases hget : s.queries.get? text with _ | q
      · rfl
      · exact absurd (reuses_iff.mpr ⟨hon, q, hget⟩) h
    · rfl
  rewrite [search, hnone]
  rfl

/-- **What a session remembers of a history**: queries and patterns as they are, and of both the
latest that there is room for. -/
structure Recalls (s : Session) (queryRoom patternRoom : Nat) (h : History) : Prop where
  parsed : s.queries.Holds fun text q => Query.parse text = .ok q
  searched : s.queries.Keeps queryRoom h.searched
  compiled : Recent.Compiled patternRoom s.patterns h.compiled
  remembering : s.remembering = h.remembering

theorem recalls_empty (queryRoom patternRoom : Nat) :
    (empty queryRoom patternRoom).Recalls queryRoom patternRoom .empty :=
  ⟨Recent.holds_empty _, Recent.keeps_empty _, ⟨Recent.holds_empty _, Recent.keeps_empty _⟩, rfl⟩

namespace Recalls

variable {s : Session} {queryRoom patternRoom : Nat} {h : History}
  (hs : s.Recalls queryRoom patternRoom h)
include hs

/-- The history tells which searches are answered from memory. -/
theorem recalls_iff {text : String} : h.recalls queryRoom text = true ↔ s.reuses text := by
  rw [History.recalls, reuses, Bool.and_eq_true, List.contains_iff_mem, hs.remembering,
    hs.searched.keys]

/-- Parsing gives the query of the text and remembers the patterns of its tokens. -/
theorem parse (text : String) : ∃ patterns,
    Recent.Compiled patternRoom patterns ((Grammar.patternsMade text).reverse ++ h.compiled)
      ∧ s.parse text = (Query.parse text, { s with patterns }) := by
  obtain ⟨patterns, hrun, hcompiled⟩ :=
    Grammar.parseWith_traces (Recent.pattern_logs patternRoom) text hs.compiled
  exact ⟨patterns, hcompiled, by rw [Session.parse, hrun]⟩

/-- The accepted queries go on with a search as the queries of the session do. -/
theorem searched_eq {text : String} {q : Query} (hq : Query.parse text = .ok q) :
    (h.next queryRoom (.search text)).searched
      = if s.remembering then text :: h.searched else h.searched := by
  rw [History.next, hq, hs.remembering]
  simp [Except.toBool]

/-- **A search goes on with the history.** -/
theorem search (text : String) :
    (s.search text).2.Recalls queryRoom patternRoom (h.next queryRoom (.search text)) := by
  by_cases hreuses : s.reuses text
  · obtain ⟨hon, q, hget⟩ := reuses_iff.mp hreuses
    have hq : Query.parse text = .ok q := hs.parsed.of_get? hget
    rw [search_of_get? hon hget]
    refine ⟨hs.parsed.use hq, ?_, ?_, hs.remembering⟩
    · rw [hs.searched_eq hq, if_pos hon]
      exact hs.searched.use text q
    · rw [History.next, if_pos (hs.recalls_iff.mpr hreuses)]
      exact hs.compiled
  · obtain ⟨patterns, hcompiled, hparse⟩ := hs.parse text
    have hcompiled' : Recent.Compiled patternRoom patterns
        (h.next queryRoom (.search text)).compiled := by
      rwa [History.next, if_neg (mt hs.recalls_iff.mp hreuses)]
    rw [search_of_not_reuses hreuses, hparse]
    rcases hq : Query.parse text with fault | q
    · refine ⟨hs.parsed, ?_, hcompiled', hs.remembering⟩
      have hsearched : (h.next queryRoom (.search text)).searched = h.searched := by
        simp [History.next, hq, Except.toBool]
      rw [hsearched]
      exact hs.searched
    · have hsearched := hs.searched_eq hq
      by_cases hon : s.remembering = true
      · rw [if_pos hon] at hsearched
        dsimp only
        rw [if_pos hon]
        exact ⟨hs.parsed.use hq, hsearched ▸ hs.searched.use text q, hcompiled', hs.remembering⟩
      · rw [if_neg hon] at hsearched
        dsimp only
        rw [if_neg hon]
        exact ⟨hs.parsed, hsearched ▸ hs.searched, hcompiled', hs.remembering⟩

/-- A test goes on with the history. -/
theorem test (source flags text : String) :
    (s.answer (.test source flags text)).2.Recalls queryRoom patternRoom
      (h.next queryRoom (.test source flags text)) := by
  rcases hmake : Pattern.make source flags with e | p
  · obtain ⟨patterns, hrun, hcompiled⟩ := (Recent.pattern_logs patternRoom).refused hs.compiled hmake
    have hpattern : s.pattern source flags = (.error e, { s with patterns }) := by
      rw [Session.pattern, hrun]
    rw [Session.answer, hpattern, History.next, hmake]
    exact ⟨hs.parsed, hs.searched, hcompiled, hs.remembering⟩
  · obtain ⟨patterns, hrun, hcompiled⟩ := (Recent.pattern_logs patternRoom).made hs.compiled hmake
    have hpattern : s.pattern source flags = (.ok p, { s with patterns }) := by
      rw [Session.pattern, hrun]
    rw [Session.answer, hpattern, History.next, hmake]
    exact ⟨hs.parsed, hs.searched, hcompiled, hs.remembering⟩

/-- **Every request goes on with the history.** -/
theorem answer (r : Request) :
    (s.answer r).2.Recalls queryRoom patternRoom (h.next queryRoom r) := by
  cases r with
  | search text => exact hs.search text
  | test source flags text => exact hs.test source flags text
  | clear => exact ⟨Recent.holds_clear _, hs.searched.clear, hs.compiled, hs.remembering⟩
  | remember on => exact ⟨hs.parsed, hs.searched, hs.compiled, rfl⟩

end Recalls

/-- A session goes on with the history over a whole run. -/
theorem Recalls.after {s : Session} {queryRoom patternRoom : Nat} {h : History}
    (hs : s.Recalls queryRoom patternRoom h) (requests : List Request) :
    (s.after requests).Recalls queryRoom patternRoom (h.after queryRoom requests) := by
  induction requests generalizing s h with
  | nil => exact hs
  | cons r requests ih => exact ih (hs.answer r)

/-- **A session remembers what was used last.**  After any requests, the remembered queries are the
latest distinct ones among the accepted queries that were searched while queries were remembered,
since memory was last cleared; the remembered patterns are the latest distinct ones among those that
were compiled, by tests and by the parses of all searches that were not answered from memory.  Both
stand in the order of their last use, no key twice, and there are as many as there is room for.
Clearing drops the queries alone, and the switch drops nothing. -/
theorem remembers_latest (queryRoom patternRoom : Nat) (requests : List Request) :
    let s := (empty queryRoom patternRoom).after requests
    let h := History.empty.after queryRoom requests
    s.queries.keys = latest queryRoom h.searched
      ∧ s.patterns.keys = latest patternRoom h.compiled
      ∧ (∀ text, h.recalls queryRoom text = true ↔ s.reuses text)
      ∧ s.queries.keys.length = min queryRoom h.searched.eraseDups.length
      ∧ s.patterns.keys.length = min patternRoom h.compiled.eraseDups.length
      ∧ s.queries.keys.Nodup ∧ s.patterns.keys.Nodup
      ∧ (∀ text ∈ s.queries.keys, ∃ q, Query.parse text = .ok q)
      ∧ (∀ key ∈ s.patterns.keys, ∃ p, Pattern.make key.1 key.2 = .ok p)
      ∧ (s.answer .clear).2 = { s with queries := .empty queryRoom }
      ∧ ∀ on, (s.answer (.remember on)).2 = { s with remembering := on } := by
  intro s h
  have hs : s.Recalls queryRoom patternRoom h :=
    (recalls_empty queryRoom patternRoom).after requests
  have hqueries := hs.searched.keys
  have hpatterns := hs.compiled.keeps.keys
  refine ⟨hqueries, hpatterns, fun _ => hs.recalls_iff, ?_, ?_, ?_, ?_, ?_, ?_, ?_, fun _ => rfl⟩
  · rw [hqueries, length_latest]
  · rw [hpatterns, length_latest]
  · exact hqueries ▸ nodup_latest queryRoom h.searched
  · exact hpatterns ▸ nodup_latest patternRoom h.compiled
  · intro text htext
    obtain ⟨⟨_, q⟩, hmem, rfl⟩ := List.mem_map.mp htext
    exact ⟨q, hs.parsed _ hmem⟩
  · intro key hkey
    obtain ⟨⟨_, p⟩, hmem, rfl⟩ := List.mem_map.mp hkey
    exact ⟨p, hs.compiled.made _ hmem⟩
  · rw [answer, Recent.clear, hs.searched.capacity]
    rfl

end Session

end CardQuery

import CardQuery.Proofs.Grammar.Parametric
import CardQuery.Session

/-!
# Proofs/Session/Transparency — what is remembered shows in no answer

* `answers_are_fresh` — after any requests, a search is answered by the query that its text is and a
  test by a pattern just compiled.

The invariant is `Faithful`: an entry is what its key gives anew.  Every request keeps it.  A search
that runs the parser does so over the remembered patterns, and there the parametricity of the reader
(`Simulation`) turns "each pattern is as if compiled anew" into "so is the query".
-/

namespace CardQuery

/-! ## Entries with a property -/

namespace Recent

variable {κ α : Type} [BEq κ]

/-- Every entry has a property. -/
def Holds (P : κ → α → Prop) (r : Recent κ α) : Prop := ∀ e ∈ r.entries, P e.1 e.2

variable {P : κ → α → Prop} {r : Recent κ α} {key : κ} {value : α}

omit [BEq κ] in
theorem holds_empty (capacity : Nat) : (empty capacity : Recent κ α).Holds P := nofun

omit [BEq κ] in
theorem holds_clear (r : Recent κ α) : r.clear.Holds P := nofun

/-- Use adds one entry and may only drop others. -/
theorem Holds.use (h : r.Holds P) (hnew : P key value) : (r.use key value).Holds P := by
  intro e he
  rcases List.mem_cons.mp (List.mem_of_mem_take he) with rfl | he
  · exact hnew
  · exact h e (List.mem_filter.mp he).1

theorem Holds.of_get? [LawfulBEq κ] (h : r.Holds P) (hget : r.get? key = some value) :
    P key value := by
  obtain ⟨before, after, hentries, -⟩ := List.lookup_eq_some_iff.mp hget
  exact h (key, value) (by rw [hentries]; simp)

/-- A key is found exactly if it is one of the keys. -/
theorem isSome_get? [LawfulBEq κ] : (r.get? key).isSome = true ↔ key ∈ r.keys := by
  rw [get?, List.lookup_isSome_iff, keys, List.mem_map]
  simp only [beq_iff_eq]
  exact ⟨fun ⟨e, he, heq⟩ => ⟨e, he, heq.symm⟩, fun ⟨e, he, heq⟩ => ⟨e, he, heq.symm⟩⟩

end Recent

/-! ## Patterns -/

/-- A pattern is the one that its source and flags make. -/
def IsMade (key : String × String) (p : Pattern) : Prop := Pattern.make key.1 key.2 = .ok p

/-- Over made patterns a computation gives a plain result, and leaves made patterns behind. -/
def overMade : Simulation (StateM (Recent (String × String) Pattern)) Id where
  Related x a := ∀ r : Recent (String × String) Pattern, r.Holds IsMade →
    ∃ r', x.run r = (a, r') ∧ r'.Holds IsMade
  pure _ r h := ⟨r, rfl, h⟩
  map f hx r h := by
    obtain ⟨r', heq, h'⟩ := hx r h
    exact ⟨r', by rw [StateT.run_map, heq]; rfl, h'⟩
  bind hx hf r h := by
    obtain ⟨r', heq, h'⟩ := hx r h
    obtain ⟨r'', heq', h''⟩ := hf _ r' h'
    exact ⟨r'', by rw [StateT.run_bind, heq]; exact heq', h''⟩

/-- What asking for a pattern does to the remembered ones. -/
theorem run_pattern (source flags : String) (r : Recent (String × String) Pattern) :
    (Recent.pattern source flags).run r =
      match r.get? (source, flags), Pattern.make source flags with
      | some p, _ | none, .ok p => (.ok p, r.use (source, flags) p)
      | none, .error e => (.error e, r) := by
  cases hget : r.get? (source, flags) with
  | some p =>
    simp only [Recent.pattern, StateT.run_bind, StateT.run_get, pure_bind, hget]
    rfl
  | none =>
    simp only [Recent.pattern, StateT.run_bind, StateT.run_get, pure_bind, hget]
    cases Pattern.make source flags <;> rfl

/-- **The remembered patterns answer as making one would.** -/
theorem pattern_related (source flags : String) :
    overMade.Related (Recent.pattern source flags) (Pattern.make source flags) := by
  intro r h
  rw [run_pattern]
  cases hget : r.get? (source, flags) with
  | some p =>
    have hp : Pattern.make source flags = .ok p := h.of_get? hget
    exact ⟨r.use (source, flags) p, by rw [hp], h.use hp⟩
  | none =>
    cases hp : Pattern.make source flags with
    | ok p => exact ⟨r.use (source, flags) p, rfl, h.use hp⟩
    | error e => exact ⟨r, rfl, h⟩

/-! ## Sessions -/

namespace Session

/-- The session after requests. -/
def after (s : Session) (requests : List Request) : Session :=
  requests.foldl (fun s r => (s.answer r).2) s

/-- **What a session remembers is what parsing and compiling give.** -/
structure Faithful (s : Session) : Prop where
  queries : s.queries.Holds fun query q => Query.parse query = .ok q
  patterns : s.patterns.Holds IsMade

/-- Whether a search is answered from memory: queries are remembered and this one is among them. -/
def reuses (s : Session) (query : String) : Prop := s.remembering = true ∧ query ∈ s.queries.keys

instance (s : Session) (query : String) : Decidable (s.reuses query) :=
  inferInstanceAs (Decidable (_ ∧ _))

theorem reuses_iff {s : Session} {query : String} :
    s.reuses query ↔ s.remembering = true ∧ ∃ q, s.queries.get? query = some q := by
  rw [reuses, ← Recent.isSome_get?, Option.isSome_iff_exists]

theorem faithful_empty (queryCapacity patternCapacity : Nat) :
    (empty queryCapacity patternCapacity).Faithful :=
  ⟨Recent.holds_empty _, Recent.holds_empty _⟩

namespace Faithful

variable {s : Session} (h : s.Faithful)
include h

/-- Parsing over a faithful session is parsing, and only touches the patterns. -/
theorem parse (query : String) : ∃ patterns, patterns.Holds IsMade
    ∧ s.parse query = (Query.parse query, { s with patterns }) := by
  obtain ⟨patterns, heq, hpatterns⟩ :=
    overMade.parseWith_related pattern_related query s.patterns h.patterns
  refine ⟨patterns, hpatterns, ?_⟩
  rw [Session.parse, heq]
  rfl

/-- A pattern of a faithful session is the one just made. -/
theorem pattern (source flags : String) : ∃ patterns, patterns.Holds IsMade
    ∧ s.pattern source flags = (Pattern.make source flags, { s with patterns }) := by
  obtain ⟨patterns, heq, hpatterns⟩ := pattern_related source flags s.patterns h.patterns
  refine ⟨patterns, hpatterns, ?_⟩
  rw [Session.pattern, heq]

/-- **A search is answered by the query that its text is**, from memory if it is remembered. -/
theorem search (query : String) :
    (s.search query).1 = (Query.parse query).map (.query · (decide (s.reuses query)))
      ∧ (s.search query).2.Faithful := by
  rw [Session.search]
  split
  · -- the query is remembered
    rename_i q hget
    obtain ⟨hon, hget⟩ : s.remembering = true ∧ s.queries.get? query = some q := by
      split at hget
      · rename_i hon
        exact ⟨hon, hget⟩
      · cases hget
    have hq : Query.parse query = .ok q := h.queries.of_get? hget
    have hreuses : s.reuses query := reuses_iff.mpr ⟨hon, q, hget⟩
    refine ⟨?_, h.queries.use hq, h.patterns⟩
    rw [hq, decide_eq_true hreuses]
    rfl
  · rename_i hget
    have hreuses : ¬ s.reuses query := by
      intro hreuses
      obtain ⟨hon, q, hq⟩ := reuses_iff.mp hreuses
      rw [if_pos hon, hq] at hget
      cases hget
    obtain ⟨patterns, hpatterns, heq⟩ := h.parse query
    rw [heq, decide_eq_false hreuses]
    cases hq : Query.parse query with
    | error f => exact ⟨rfl, h.queries, hpatterns⟩
    | ok q =>
      refine ⟨rfl, ?_⟩
      dsimp only
      split
      · exact ⟨h.queries.use hq, hpatterns⟩
      · exact ⟨h.queries, hpatterns⟩

/-- **A search reuses exactly the query that is remembered.** -/
theorem search_reused_iff {query : String} {q : Query} :
    (s.search query).1 = .ok (.query q true)
      ↔ s.remembering = true ∧ s.queries.get? query = some q := by
  rw [(h.search query).1]
  constructor
  · intro hanswer
    cases hp : Query.parse query with
    | error f =>
      rw [hp] at hanswer
      cases hanswer
    | ok p =>
      rw [hp] at hanswer
      injection hanswer with hanswer
      injection hanswer with hpq hreused
      obtain ⟨hon, p', hget⟩ := reuses_iff.mp (of_decide_eq_true hreused)
      have hp' : Query.parse query = .ok p' := h.queries.of_get? hget
      rw [hp] at hp'
      injection hp' with hp'
      exact ⟨hon, by rw [hget, ← hp', hpq]⟩
  · rintro ⟨hon, hget⟩
    have hq : Query.parse query = .ok q := h.queries.of_get? hget
    rw [hq, decide_eq_true (reuses_iff.mpr ⟨hon, q, hget⟩)]
    rfl

/-- A test is answered by the pattern just compiled. -/
theorem test (source flags text : String) :
    (s.answer (.test source flags text)).1
        = (Pattern.compile source flags).map (fun p => .matched (p.matchesIn text))
      ∧ (s.answer (.test source flags text)).2.Faithful := by
  obtain ⟨patterns, hpatterns, heq⟩ := h.pattern source flags
  rw [Session.answer, heq, Pattern.compile]
  cases Pattern.make source flags with
  | ok p => exact ⟨rfl, h.queries, hpatterns⟩
  | error r => exact ⟨rfl, h.queries, hpatterns⟩

/-- **Every request keeps a session faithful.** -/
theorem answer (r : Request) : (s.answer r).2.Faithful := by
  cases r with
  | search query => exact (h.search query).2
  | test source flags text => exact (h.test source flags text).2
  | clear => exact ⟨Recent.holds_clear _, h.patterns⟩
  | remember on => exact ⟨h.queries, h.patterns⟩

end Faithful

/-- A session stays faithful over a whole run. -/
theorem Faithful.after {s : Session} (h : s.Faithful) (requests : List Request) :
    (s.after requests).Faithful := by
  induction requests generalizing s with
  | nil => exact h
  | cons r requests ih => exact ih (h.answer r)

/-- **What is remembered shows in no answer.**  After any requests, a search is answered by the
query that its text is, or by the fault that it has; it is reused exactly if queries are remembered
and this one is among them, and then it is the one remembered.  A test is answered by a pattern just
compiled, and the switches always by an acknowledgement. -/
theorem answers_are_fresh (queryCapacity patternCapacity : Nat) (requests : List Request) :
    let s := (empty queryCapacity patternCapacity).after requests
    (∀ query, (s.answer (.search query)).1
        = (Query.parse query).map (.query · (decide (s.reuses query))))
      ∧ (∀ query q, (s.answer (.search query)).1 = .ok (.query q true)
        ↔ s.remembering = true ∧ s.queries.get? query = some q)
      ∧ (∀ source flags text, (s.answer (.test source flags text)).1
        = (Pattern.compile source flags).map fun p => .matched (p.matchesIn text))
      ∧ (s.answer .clear).1 = .ok .done
      ∧ ∀ on, (s.answer (.remember on)).1 = .ok .done := by
  intro s
  have h : s.Faithful := (faithful_empty queryCapacity patternCapacity).after requests
  exact ⟨fun query => (h.search query).1, fun query q => h.search_reused_iff,
    fun source flags text => (h.test source flags text).1, rfl, fun on => rfl⟩

end Session

end CardQuery

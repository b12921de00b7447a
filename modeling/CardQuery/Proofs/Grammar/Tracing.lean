import CardQuery.Proofs.Grammar.Reading

/-!
# Proofs/Grammar/Tracing — in which order a query asks for its patterns

A maker that *logs* remembers the patterns that it made, the latest first.  Reading a query with such
a maker gives what plain reading gives, and what it adds to the log can be read off the tokens:

* `parseWith_traces` — parsing logs the pattern tokens of the query in their order, up to the token
  where reading stops.

The induction is over the levels of the grammar, as for soundness, with the bounds that the reader
really gets: a call has four units of depth for each token it is given, and a few more by its level.
-/

namespace CardQuery

/-- What is asked for to make a pattern: its source and its flags. -/
abbrev PatternKey := String × String

/-- The pattern that a token writes. -/
def Token.patternKey? (t : Token) : Option PatternKey :=
  match t.kind with
  | .pattern flags => some (t.text, flags)
  | _ => none

/-- Any other token writes no pattern. -/
theorem Token.patternKey?_eq_none {t : Token} (h : ∀ flags, t.kind ≠ .pattern flags) :
    t.patternKey? = none := by
  rw [patternKey?]
  split
  · rename_i flags hflags
    exact absurd hflags (h flags)
  · rfl

namespace Grammar

open Query

/-- The patterns that tokens write, in their order. -/
def patternKeys (ts : List Token) : List PatternKey := ts.filterMap Token.patternKey?

/-- The tokens that are read: all of a query, or those before the place where reading stops. -/
def tokensRead (ts : List Token) : List Token :=
  match ofTokens ts with
  | .ok _ => ts
  | .error failure => ts.take (ts.length - failure.unread.length)

/-- **The patterns that parsing a text makes**, in the order of its tokens. -/
def patternsMade (text : String) : List PatternKey :=
  match tokenize text with
  | .ok ts => patternKeys (tokensRead ts)
  | .error _ => []

/-! ## Makers with a log -/

section Maker

variable {σ : Type}

/-- **A maker logs** in its state: it gives what plain making gives, and what was made becomes the
latest entry.  `After s log` says that a state is right for a log. -/
structure Logs (make : Pattern.Maker (StateM σ)) (After : σ → List PatternKey → Prop) : Prop where
  made {s : σ} {log : List PatternKey} {source flags : String} {p : Pattern} (h : After s log)
    (hp : Pattern.make source flags = .ok p) :
    ∃ s', (make source flags).run s = (.ok p, s') ∧ After s' ((source, flags) :: log)
  refused {s : σ} {log : List PatternKey} {source flags : String} {r : Regex.Refusal}
    (h : After s log) (hr : Pattern.make source flags = .error r) :
    ∃ s', (make source flags).run s = (.error r, s') ∧ After s' log

/-- The tokens that remain after a reading, which says for a result and for a failure what it has
not read. -/
def remaining {ε α : Type} (left : α → List Token) (unread : ε → List Token) :
    Except ε α → List Token
  | .ok a => left a
  | .error e => unread e

/-- **A reading traces its tokens**: it ends as the plain reading does, and has logged the patterns
of the tokens before those that remain. -/
def Traces {ε α : Type} (After : σ → List PatternKey → Prop) (ts : List Token)
    (left : α → List Token) (unread : ε → List Token) (x : ExceptT ε (StateM σ) α)
    (y : ExceptT ε Id α) : Prop :=
  ∀ ⦃s log⦄, After s log → ∃ us s', ts = us ++ remaining left unread y
    ∧ x.run.run s = (y, s') ∧ After s' ((patternKeys us).reverse ++ log)

section Traces

variable {After : σ → List PatternKey → Prop} {ε α β : Type} {ts : List Token}
  {left : α → List Token} {unread : ε → List Token} {x : ExceptT ε (StateM σ) α} {y : ExceptT ε Id α}

theorem traces_pure {a : α} (h : ts = left a) :
    Traces After ts left unread (pure a) (pure a) :=
  fun s _ hs => ⟨[], s, h, rfl, hs⟩

theorem traces_throw {e : ε} (h : ts = unread e) :
    Traces After ts left unread (throw e) (throw e) :=
  fun s _ hs => ⟨[], s, h, rfl, hs⟩

/-- A token without a pattern leaves no trace. -/
theorem Traces.skip {t : Token} (h : Traces After ts left unread x y) (ht : t.patternKey? = none) :
    Traces After (t :: ts) left unread x y := by
  intro s log hs
  obtain ⟨us, s', hts, hx, h'⟩ := h hs
  refine ⟨t :: us, s', by rw [hts]; rfl, hx, ?_⟩
  rwa [patternKeys, List.filterMap_cons_none ht]

theorem Traces.bind {left' : β → List Token} {f : α → ExceptT ε (StateM σ) β}
    {g : α → ExceptT ε Id β} (hx : Traces After ts left unread x y)
    (hf : ∀ a, y = .ok a → Traces After (left a) left' unread (f a) (g a)) :
    Traces After ts left' unread (x >>= f) (y >>= g) := by
  intro s log h
  obtain ⟨us, s', hts, hrun, h'⟩ := hx h
  have hstep : (x >>= f).run.run s
      = (match y with | .ok a => (f a).run | .error e => pure (.error e)).run s' := by
    rw [ExceptT.run_bind, StateT.run_bind, hrun]
    rcases y with e | a <;> rfl
  rcases y with e | a
  · exact ⟨us, s', hts, hstep, h'⟩
  · obtain ⟨vs, s'', hleft, hrun', h''⟩ := hf a rfl h'
    refine ⟨us ++ vs, s'', ?_, hstep.trans hrun', ?_⟩
    · rw [hts, List.append_assoc]
      exact congrArg (us ++ ·) hleft
    · simpa [patternKeys] using h''

/-- Failures may be renamed as long as they say the same of the tokens. -/
theorem Traces.adapt {ε' : Type} {unread' : ε' → List Token} {g : ε → ε'}
    (h : Traces After ts left unread x y) (hg : ∀ e, unread' (g e) = unread e) :
    Traces After ts left unread' (x.adapt g) (y.adapt g) := by
  intro s log hs
  obtain ⟨us, s', hts, hrun, h'⟩ := h hs
  have hrun' : (x.adapt g).run.run s = (y.adapt g, s') :=
    congrArg (fun p : Except ε α × σ => (Except.mapError g p.1, p.2)) hrun
  refine ⟨us, s', ?_, hrun', h'⟩
  rcases y with e | a
  · exact hts.trans (congrArg (us ++ ·) (hg e).symm)
  · exact hts

end Traces

variable {make : Pattern.Maker (StateM σ)} {After : σ → List PatternKey → Prop}
  (hmake : Logs make After)

/-! ## Values and comparisons -/

section Values

include hmake

/-- Asking for the pattern of a token: it is logged if it is made, and else the token is not read. -/
theorem patternOfToken_traces {t : Token} {flags : String} (ht : t.kind = .pattern flags)
    (rest : List Token) :
    Traces After (t :: rest) (fun _ => rest) (fun _ => t :: rest)
      (Pattern.ofToken make t.text flags) (Pattern.ofToken (m := Id) Pattern.make t.text flags) := by
  intro s log h
  have hkey : t.patternKey? = some (t.text, flags) := by rw [Token.patternKey?, ht]
  have hplain : (Pattern.ofToken (m := Id) Pattern.make t.text flags : Except Cause Pattern)
      = (Pattern.make t.text flags).mapError Cause.ofRefusal := rfl
  have hstate : (Pattern.ofToken make t.text flags).run.run s
      = (((make t.text flags).run s).1.mapError Cause.ofRefusal, ((make t.text flags).run s).2) :=
    rfl
  rw [hplain, hstate]
  rcases hp : Pattern.make t.text flags with r | p
  · obtain ⟨s', hrun, h'⟩ := hmake.refused h hp
    exact ⟨[], s', rfl, by rw [hrun], h'⟩
  · obtain ⟨s', hrun, h'⟩ := hmake.made h hp
    exact ⟨[t], s', rfl, by rw [hrun], by simpa [patternKeys, hkey] using h'⟩

theorem ofToken_traces (field : Field) (op : CompareOp) (v : Token) (rest : List Token) :
    Traces After (v :: rest) (fun _ => rest) (fun _ => v :: rest) (Value.ofToken make field op v)
      (Value.ofToken (m := Id) Pattern.make field op v) := by
  unfold Value.ofToken
  split
  · rename_i flags hk
    split
    · exact (patternOfToken_traces hmake hk rest).bind fun p _ => traces_pure rfl
    · exact traces_throw rfl
  · rename_i hk
    have hkey : v.patternKey? = none := Token.patternKey?_eq_none hk
    rcases Value.ofWritten field op v.text with e | a
    · exact traces_throw rfl
    · refine Traces.skip ?_ hkey
      exact traces_pure rfl

/-- The failures of the grammar say themselves what was not read. -/
theorem readComparison_traces {t : Token} {name : String} {op : CompareOp}
    (ht : t.kind = .comparison name op) (ts : List Token) :
    Traces After (t :: ts) Prod.snd Failure.unread (readComparison make t name op ts)
      (readComparison (m := Id) Pattern.make t name op ts) := by
  refine Traces.skip ?_ (Token.patternKey?_eq_none (by simp [ht]))
  unfold readComparison
  split
  · exact traces_throw rfl
  rename_i field _
  split
  · split
    · exact traces_throw rfl
    rename_i v rest
    split
    · refine Traces.bind ?_ fun value _ => traces_pure rfl
      exact (ofToken_traces hmake field op v rest).adapt fun _ => rfl
    · exact traces_throw rfl
  · exact traces_throw rfl

end Values

theorem expectTerm_traces (o : Token) (ts : List Token) :
    Traces After ts (fun _ => ts) Failure.unread (expectTerm o ts)
      (expectTerm (m := Id) o ts) := by
  unfold expectTerm
  split
  · exact traces_throw rfl
  split
  · exact traces_pure rfl
  · exact traces_throw rfl

theorem closeGroup_traces (t : Token) (q : Query) (ts : List Token) :
    Traces After ts Prod.snd Failure.unread (closeGroup t q ts) (closeGroup (m := Id) t q ts) := by
  unfold closeGroup
  split
  · exact traces_throw rfl
  rename_i c rest
  split
  · rename_i hc
    refine Traces.skip ?_ (Token.patternKey?_eq_none (by rw [hc]; nofun))
    exact traces_pure rfl
  · exact traces_throw rfl

/-! ## The levels of the grammar -/

/-- A reading traces its tokens, and gives the query with the tokens behind it. -/
abbrev TracesReading (After : σ → List PatternKey → Prop) (ts : List Token)
    (x : Reading (StateM σ)) (y : Reading Id) : Prop :=
  Traces After ts Prod.snd Failure.unread x y

/-- The calls with a bound trace their tokens, each with the depth that it needs. -/
structure TracesAll (make : Pattern.Maker (StateM σ)) (After : σ → List PatternKey → Prop)
    (n : Nat) : Prop where
  either (ts : List Token) (h : 4 * ts.length + 4 ≤ n) :
    TracesReading After ts (readEither make n ts) (readEither Pattern.make n ts)
  eitherAfter (left : Query) (ts : List Token) (h : 4 * ts.length ≤ n) :
    TracesReading After ts (readEitherAfter make n left ts) (readEitherAfter Pattern.make n left ts)
  both (ts : List Token) (h : 4 * ts.length + 3 ≤ n) :
    TracesReading After ts (readBoth make n ts) (readBoth Pattern.make n ts)
  bothAfter (left : Query) (ts : List Token) (h : 4 * ts.length + 3 ≤ n) :
    TracesReading After ts (readBothAfter make n left ts) (readBothAfter Pattern.make n left ts)
  negation (ts : List Token) (h : 4 * ts.length + 2 ≤ n) :
    TracesReading After ts (readNegation make n ts) (readNegation Pattern.make n ts)
  term (t : Token) (ts : List Token) (h : 4 * ts.length + 5 ≤ n) :
    TracesReading After (t :: ts) (readTerm make n t ts) (readTerm Pattern.make n t ts)

/-- What was read off tokens is not nothing. -/
theorem length_lt_of_gives {l : Level} {ts rest : List Token} {q : Query} {x : Reading Id}
    (h : Gives l [] ts x) (hx : x = .ok (q, rest)) : rest.length < ts.length := by
  obtain ⟨us, rfl, hd⟩ := h hx
  have hpos : 0 < us.length := List.length_pos_iff.mpr (by simpa using hd.ne_nil)
  rw [List.length_append]
  omega

section Step

variable {n : Nat} (ih : TracesAll make After n)
include ih

theorem TracesAll.either_succ (ts : List Token) (h : 4 * ts.length + 4 ≤ n + 1) :
    TracesReading After ts (readEither make (n + 1) ts) (readEither Pattern.make (n + 1) ts) := by
  unfold readEither
  refine (ih.both ts (by omega)).bind fun read hfirst => ?_
  obtain ⟨first, rest⟩ := read
  have hrest := length_lt_of_gives ((readsSoundly n).both ts) hfirst
  exact ih.eitherAfter first rest (by omega)

theorem TracesAll.eitherAfter_succ (left : Query) (ts : List Token) (h : 4 * ts.length ≤ n + 1) :
    TracesReading After ts (readEitherAfter make (n + 1) left ts)
      (readEitherAfter Pattern.make (n + 1) left ts) := by
  rcases ts with _ | ⟨t, ts⟩
  · exact traces_pure rfl
  rw [List.length_cons] at h
  unfold readEitherAfter
  split
  · rename_i ht
    refine Traces.skip ?_ (Token.patternKey?_eq_none (by simp [ht]))
    refine (expectTerm_traces t ts).bind fun _ _ => ?_
    refine (ih.both ts (by omega)).bind fun read hright => ?_
    obtain ⟨right, rest⟩ := read
    have hrest := length_lt_of_gives ((readsSoundly n).both ts) hright
    exact ih.eitherAfter _ rest (by omega)
  · exact traces_pure rfl

theorem TracesAll.both_succ (ts : List Token) (h : 4 * ts.length + 3 ≤ n + 1) :
    TracesReading After ts (readBoth make (n + 1) ts) (readBoth Pattern.make (n + 1) ts) := by
  unfold readBoth
  refine (ih.negation ts (by omega)).bind fun read hfirst => ?_
  obtain ⟨first, rest⟩ := read
  have hrest := length_lt_of_gives ((readsSoundly n).negation ts) hfirst
  exact ih.bothAfter first rest (by omega)

theorem TracesAll.bothAfter_succ (left : Query) (ts : List Token)
    (h : 4 * ts.length + 3 ≤ n + 1) :
    TracesReading After ts (readBothAfter make (n + 1) left ts)
      (readBothAfter Pattern.make (n + 1) left ts) := by
  rcases ts with _ | ⟨t, ts⟩
  · exact traces_pure rfl
  rw [List.length_cons] at h
  unfold readBothAfter
  split
  · rename_i ht
    refine Traces.skip ?_ (Token.patternKey?_eq_none (by simp [ht]))
    refine (expectTerm_traces t ts).bind fun _ _ => ?_
    refine (ih.negation ts (by omega)).bind fun read hright => ?_
    obtain ⟨right, rest⟩ := read
    have hrest := length_lt_of_gives ((readsSoundly n).negation ts) hright
    exact ih.bothAfter _ rest (by omega)
  split
  · refine (ih.negation (t :: ts) (by rw [List.length_cons]; omega)).bind
      fun read hright => ?_
    obtain ⟨right, rest⟩ := read
    have hrest := length_lt_of_gives ((readsSoundly n).negation (t :: ts)) hright
    rw [List.length_cons] at hrest
    exact ih.bothAfter _ rest (by omega)
  · exact traces_pure rfl

theorem TracesAll.negation_succ (ts : List Token) (h : 4 * ts.length + 2 ≤ n + 1) :
    TracesReading After ts (readNegation make (n + 1) ts)
      (readNegation Pattern.make (n + 1) ts) := by
  rcases ts with _ | ⟨t, ts⟩
  · exact traces_throw rfl
  rw [List.length_cons] at h
  unfold readNegation
  split
  · rename_i ht
    refine Traces.skip ?_ (Token.patternKey?_eq_none (by simp [ht]))
    refine (expectTerm_traces t ts).bind fun _ _ => ?_
    refine (ih.negation ts (by omega)).bind fun read _ => ?_
    obtain ⟨operand, rest⟩ := read
    exact traces_pure rfl
  · exact ih.term t ts (by omega)

theorem TracesAll.term_succ (hmake : Logs make After) (t : Token) (ts : List Token)
    (h : 4 * ts.length + 5 ≤ n + 1) :
    TracesReading After (t :: ts) (readTerm make (n + 1) t ts)
      (readTerm Pattern.make (n + 1) t ts) := by
  unfold readTerm
  split
  · rename_i ht
    refine Traces.skip ?_ (Token.patternKey?_eq_none (by simp [ht]))
    split
    · exact traces_throw rfl
    split
    · exact traces_throw rfl
    · refine (ih.either _ (by omega)).bind fun read _ => ?_
      obtain ⟨q, rest⟩ := read
      exact closeGroup_traces t q rest
  · rename_i ht
    exact readComparison_traces hmake ht ts
  · rename_i ht
    refine Traces.skip ?_ (Token.patternKey?_eq_none (by simp [ht]))
    exact traces_pure rfl
  · rename_i ht
    refine Traces.skip ?_ (Token.patternKey?_eq_none (by simp [ht]))
    exact traces_pure rfl
  · rename_i ht
    refine Traces.skip ?_ (Token.patternKey?_eq_none (by simp [ht]))
    exact traces_pure rfl
  · rename_i flags ht
    refine Traces.bind ?_ fun p _ => traces_pure rfl
    exact (patternOfToken_traces hmake ht ts).adapt fun _ => rfl
  all_goals
    rename_i ht
    refine Traces.skip ?_ (Token.patternKey?_eq_none (by simp [ht]))
    exact traces_throw rfl

end Step

/-- The tokens that were read are those before the ones that remain. -/
theorem tokensRead_eq {us ts : List Token}
    (h : ts = us ++ remaining (fun _ => []) Failure.unread (ofTokens ts)) : tokensRead ts = us := by
  rw [tokensRead]
  rcases hread : ofTokens ts with failure | q
  · rw [hread] at h
    have hlen : ts.length - failure.unread.length = us.length := by
      rw [congrArg List.length h, List.length_append]
      exact Nat.add_sub_cancel ..
    have htake : ts.take us.length = us := (congrArg (List.take us.length) h).trans List.take_left
    exact (congrArg (ts.take ·) hlen).trans htake
  · rw [hread] at h
    exact h.trans (List.append_nil us)

section Texts

variable (hmake : Logs make After)
include hmake

theorem tracesAll (n : Nat) : TracesAll make After n := by
  induction n with
  | zero =>
    refine ⟨?_, ?_, ?_, ?_, ?_, ?_⟩
    case refine_2 => exact fun left ts _ => traces_throw rfl
    all_goals
      intros
      omega
  | succ n ih =>
    exact ⟨ih.either_succ, ih.eitherAfter_succ, ih.both_succ, ih.bothAfter_succ, ih.negation_succ,
      ih.term_succ hmake⟩

/-- Reading all tokens leaves none of them. -/
theorem readAll_traces (ts : List Token) :
    Traces After ts (fun _ => []) Failure.unread (readAll make ts)
      (readAll (m := Id) Pattern.make ts) := by
  unfold readAll
  split
  · rename_i he
    exact traces_throw (List.isEmpty_iff.mp he)
  · refine ((tracesAll hmake _).either ts (Nat.le_refl _)).bind fun read _ => ?_
    obtain ⟨q, rest⟩ := read
    rcases rest with _ | ⟨t, rest⟩
    · exact traces_pure rfl
    dsimp only
    split <;> exact traces_throw rfl

/-- **Parsing logs the patterns of the query**, in the order of its tokens. -/
theorem parseWith_traces (text : String) {s : σ} {log : List PatternKey} (h : After s log) :
    ∃ s', (parseWith make text).run.run s = (parse text, s')
      ∧ After s' ((patternsMade text).reverse ++ log) := by
  rw [patternsMade]
  rcases htokens : tokenize text with r | ts
  · refine ⟨s, ?_, h⟩
    rw [parse_of_rejection htokens, parseWith, htokens]
    rfl
  obtain ⟨us, s', hts, hrun, h'⟩ := readAll_traces hmake ts h
  have hus : tokensRead ts = us := tokensRead_eq hts
  refine ⟨s', ?_, by simpa only [hus] using h'⟩
  rw [parse_of_tokens htokens, parseWith, htokens]
  exact congrArg (fun p : Except Failure Query × σ => (Except.mapError (faultOf text) p.1, p.2)) hrun

end Texts

end Maker

end Grammar

end CardQuery

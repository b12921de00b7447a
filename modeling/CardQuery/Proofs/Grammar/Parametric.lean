import CardQuery.Query.Grammar

/-!
# Proofs/Grammar/Parametric — the reader only asks for patterns

The reader is written for any monad and does nothing with it but call the maker of patterns.  So it
carries along every relation between the computations of two monads: if the makers are related then
so are the readings.

* `parseWith_related` — related makers give related parses.

A `Simulation` is such a relation: it holds of equal results and is kept by mapping and sequencing.
-/

namespace CardQuery

/-- **A relation between the computations of two monads.** -/
structure Simulation (m n : Type → Type) [Monad m] [Monad n] where
  Related : ∀ {α : Type}, m α → n α → Prop
  pure : ∀ {α : Type} (a : α), Related (pure a) (pure a)
  map : ∀ {α β : Type} {x : m α} {y : n α} (f : α → β), Related x y → Related (f <$> x) (f <$> y)
  bind : ∀ {α β : Type} {x : m α} {y : n α} {f : α → m β} {g : α → n β},
    Related x y → (∀ a, Related (f a) (g a)) → Related (x >>= f) (y >>= g)

namespace Simulation

variable {m n : Type → Type} [Monad m] [Monad n] (S : Simulation m n)

/-! ## Computations that may fail -/

section Failing

variable {ε ε' α β : Type}

/-- The relation on computations that may fail: the outcomes are related, failures included. -/
def OnFailing (x : ExceptT ε m α) (y : ExceptT ε n α) : Prop := S.Related x.run y.run

theorem onFailing_pure (a : α) :
    S.OnFailing (Pure.pure a : ExceptT ε m α) (Pure.pure a : ExceptT ε n α) :=
  S.pure (Except.ok a : Except ε α)

theorem onFailing_throw (e : ε) :
    S.OnFailing (throw e : ExceptT ε m α) (throw e : ExceptT ε n α) :=
  S.pure (Except.error e : Except ε α)

theorem onFailing_bind {x : ExceptT ε m α} {y : ExceptT ε n α} {f : α → ExceptT ε m β}
    {g : α → ExceptT ε n β} (h : S.OnFailing x y) (hf : ∀ a, S.OnFailing (f a) (g a)) :
    S.OnFailing (x >>= f) (y >>= g) :=
  S.bind h fun
    | .ok a => hf a
    | .error e => S.pure (Except.error e : Except ε β)

theorem onFailing_adapt {x : ExceptT ε m α} {y : ExceptT ε n α} (h : S.OnFailing x y)
    (g : ε → ε') : S.OnFailing (x.adapt g) (y.adapt g) :=
  S.map (Except.mapError g) h

end Failing

/-! ## Values and comparisons -/

variable {make : Pattern.Maker m} {make' : Pattern.Maker n}

section Values

variable (h : ∀ source flags, S.Related (make source flags) (make' source flags))
include h

theorem patternOfToken_related (source flags : String) :
    S.OnFailing (Pattern.ofToken make source flags) (Pattern.ofToken make' source flags) :=
  S.bind (h source flags) fun r => S.pure (r.mapError Cause.ofRefusal)

theorem ofToken_related (field : Field) (op : CompareOp) (t : Token) :
    S.OnFailing (Value.ofToken make field op t) (Value.ofToken make' field op t) := by
  unfold Value.ofToken
  split
  · split
    · exact S.onFailing_bind (S.patternOfToken_related h _ _) fun p => S.onFailing_pure _
    · exact S.onFailing_throw _
  · exact S.pure _

theorem readComparison_related (t : Token) (name : String) (op : CompareOp) (ts : List Token) :
    S.OnFailing (Query.readComparison make t name op ts)
      (Query.readComparison make' t name op ts) := by
  unfold Query.readComparison
  split
  · exact S.onFailing_throw _
  split
  · split
    · exact S.onFailing_throw _
    split
    · exact S.onFailing_bind (S.onFailing_adapt (S.ofToken_related h _ _ _) _) fun value =>
        S.onFailing_pure _
    · exact S.onFailing_throw _
  · exact S.onFailing_throw _

end Values

theorem expectTerm_related (o : Token) (ts : List Token) :
    S.OnFailing (Query.expectTerm o ts) (Query.expectTerm o ts) := by
  unfold Query.expectTerm
  split
  · exact S.onFailing_throw _
  split
  · exact S.onFailing_pure ()
  · exact S.onFailing_throw _

theorem closeGroup_related (t : Token) (q : Query) (ts : List Token) :
    S.OnFailing (Query.closeGroup t q ts) (Query.closeGroup t q ts) := by
  unfold Query.closeGroup
  split
  · exact S.onFailing_throw _
  split
  · exact S.onFailing_pure _
  · exact S.onFailing_throw _

/-! ## The levels of the grammar -/

/-- The calls with a bound are related, level by level. -/
structure RelatesReading (make : Pattern.Maker m) (make' : Pattern.Maker n) (bound : Nat) :
    Prop where
  either (ts : List Token) :
    S.OnFailing (Query.readEither make bound ts) (Query.readEither make' bound ts)
  eitherAfter (left : Query) (ts : List Token) :
    S.OnFailing (Query.readEitherAfter make bound left ts)
      (Query.readEitherAfter make' bound left ts)
  both (ts : List Token) :
    S.OnFailing (Query.readBoth make bound ts) (Query.readBoth make' bound ts)
  bothAfter (left : Query) (ts : List Token) :
    S.OnFailing (Query.readBothAfter make bound left ts) (Query.readBothAfter make' bound left ts)
  negation (ts : List Token) :
    S.OnFailing (Query.readNegation make bound ts) (Query.readNegation make' bound ts)
  term (t : Token) (ts : List Token) :
    S.OnFailing (Query.readTerm make bound t ts) (Query.readTerm make' bound t ts)

section Step

variable {S} {bound : Nat} (ih : S.RelatesReading make make' bound)
include ih

theorem RelatesReading.either_succ (ts : List Token) :
    S.OnFailing (Query.readEither make (bound + 1) ts)
      (Query.readEither make' (bound + 1) ts) := by
  unfold Query.readEither
  exact S.onFailing_bind (ih.both ts) fun (first, rest) => ih.eitherAfter first rest

theorem RelatesReading.eitherAfter_succ (left : Query) (ts : List Token) :
    S.OnFailing (Query.readEitherAfter make (bound + 1) left ts)
      (Query.readEitherAfter make' (bound + 1) left ts) := by
  cases ts with
  | nil => exact S.onFailing_pure (left, [])
  | cons t ts =>
    unfold Query.readEitherAfter
    split
    · exact S.onFailing_bind (S.expectTerm_related t ts) fun _ =>
        S.onFailing_bind (ih.both ts) fun (right, rest) => ih.eitherAfter _ rest
    · exact S.onFailing_pure _

theorem RelatesReading.both_succ (ts : List Token) :
    S.OnFailing (Query.readBoth make (bound + 1) ts) (Query.readBoth make' (bound + 1) ts) := by
  unfold Query.readBoth
  exact S.onFailing_bind (ih.negation ts) fun (first, rest) => ih.bothAfter first rest

theorem RelatesReading.bothAfter_succ (left : Query) (ts : List Token) :
    S.OnFailing (Query.readBothAfter make (bound + 1) left ts)
      (Query.readBothAfter make' (bound + 1) left ts) := by
  cases ts with
  | nil => exact S.onFailing_pure (left, [])
  | cons t ts =>
    unfold Query.readBothAfter
    split
    · exact S.onFailing_bind (S.expectTerm_related t ts) fun _ =>
        S.onFailing_bind (ih.negation ts) fun (right, rest) => ih.bothAfter _ rest
    split
    · exact S.onFailing_bind (ih.negation (t :: ts)) fun (right, rest) => ih.bothAfter _ rest
    · exact S.onFailing_pure _

theorem RelatesReading.negation_succ (ts : List Token) :
    S.OnFailing (Query.readNegation make (bound + 1) ts)
      (Query.readNegation make' (bound + 1) ts) := by
  cases ts with
  | nil => exact S.onFailing_throw _
  | cons t ts =>
    unfold Query.readNegation
    split
    · exact S.onFailing_bind (S.expectTerm_related t ts) fun _ =>
        S.onFailing_bind (ih.negation ts) fun (operand, rest) => S.onFailing_pure _
    · exact ih.term t ts

theorem RelatesReading.term_succ
    (h : ∀ source flags, S.Related (make source flags) (make' source flags)) (t : Token)
    (ts : List Token) :
    S.OnFailing (Query.readTerm make (bound + 1) t ts)
      (Query.readTerm make' (bound + 1) t ts) := by
  unfold Query.readTerm
  split
  · split
    · exact S.onFailing_throw _
    split
    · exact S.onFailing_throw _
    · exact S.onFailing_bind (ih.either _) fun (q, rest) => S.closeGroup_related t q rest
  · exact S.readComparison_related h t _ _ ts
  · exact S.onFailing_pure _
  · exact S.onFailing_pure _
  · exact S.onFailing_pure _
  · exact S.onFailing_bind (S.onFailing_adapt (S.patternOfToken_related h _ _) _) fun p =>
      S.onFailing_pure _
  all_goals exact S.onFailing_throw _

end Step

variable (h : ∀ source flags, S.Related (make source flags) (make' source flags))
include h

theorem relatesReading (bound : Nat) : S.RelatesReading make make' bound := by
  induction bound with
  | zero => constructor <;> intros <;> exact S.onFailing_throw _
  | succ bound ih =>
    exact ⟨ih.either_succ, ih.eitherAfter_succ, ih.both_succ, ih.bothAfter_succ, ih.negation_succ,
      ih.term_succ h⟩

theorem readAll_related (ts : List Token) :
    S.OnFailing (Query.readAll make ts) (Query.readAll make' ts) := by
  unfold Query.readAll
  split
  · exact S.onFailing_throw _
  refine S.onFailing_bind ((S.relatesReading h _).either ts) fun (q, rest) => ?_
  cases rest with
  | nil => exact S.onFailing_pure q
  | cons t rest =>
    dsimp only
    split <;> exact S.onFailing_throw _

/-- **Related makers give related parses.** -/
theorem parseWith_related (query : String) :
    S.OnFailing (Query.parseWith make query) (Query.parseWith make' query) := by
  unfold Query.parseWith
  split
  · exact S.onFailing_throw _
  · exact S.onFailing_adapt (S.readAll_related h _) _

end Simulation

end CardQuery

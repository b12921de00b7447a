import CardQuery.Proofs.Grammar.Derivation

/-!
# Proofs/Grammar/Reading — the reader accepts exactly the grammar

* `reader_accepts_grammar` — reading tokens gives a query exactly if the tokens derive it, and they
  derive no other one.

One direction follows the reader (`Gives`): what a call has read is a derivation, and a call that
continues a first operand extends the derivation of that operand.  The other direction follows the
derivation (`Reads`): whatever stands behind the tokens, with a bound of four times their number the
reader comes out behind them, a level with a loop in the middle of its loop.
-/

namespace CardQuery

namespace Grammar

open Query

/-! ## Results of plain readings -/

section Bind

variable {ε α β : Type} {x : ExceptT ε Id α} {f : α → ExceptT ε Id β}

theorem bind_of_ok {a : α} (h : x = .ok a) : (x >>= f) = f a := by
  rw [h]
  rfl

theorem bind_eq_ok {b : β} : (x >>= f) = .ok b ↔ ∃ a, x = .ok a ∧ f a = .ok b := by
  cases x with
  | ok a => exact ⟨fun h => ⟨a, rfl, h⟩, fun ⟨_, h, hf⟩ => by cases h; exact hf⟩
  | error e => exact ⟨nofun, fun ⟨_, h, _⟩ => nomatch h⟩

theorem bind_eq_error {e : ε} :
    (x >>= f) = .error e ↔ x = .error e ∨ ∃ a, x = .ok a ∧ f a = .error e := by
  cases x with
  | ok a =>
    exact ⟨fun h => .inr ⟨a, rfl, h⟩, fun h => h.elim nofun fun ⟨_, h, hf⟩ => by cases h; exact hf⟩
  | error e' =>
    refine ⟨fun h => .inl (by cases h; rfl), ?_⟩
    rintro (h | ⟨_, h, -⟩)
    · cases h
      rfl
    · cases h

end Bind

theorem adapt_eq_ok {ε ε' α : Type} {x : ExceptT ε Id α} {g : ε → ε'} {a : α} :
    x.adapt g = .ok a ↔ x = .ok a := by
  cases x with
  | ok b => exact ⟨fun h => by cases h; rfl, fun h => by cases h; rfl⟩
  | error e => exact ⟨nofun, nofun⟩

theorem adapt_eq_error {ε ε' α : Type} {x : ExceptT ε Id α} {g : ε → ε'} {e : ε'} :
    x.adapt g = .error e ↔ ∃ e', x = .error e' ∧ g e' = e := by
  cases x with
  | ok a => exact ⟨nofun, fun ⟨_, h, _⟩ => nomatch h⟩
  | error e' =>
    refine ⟨fun h => ⟨e', rfl, by cases h; rfl⟩, ?_⟩
    rintro ⟨_, h, rfl⟩
    cases h
    rfl

theorem expectTerm_eq_ok {o : Token} {ts : List Token} {u : Unit} :
    (expectTerm o ts : ExceptT Failure Id Unit) = .ok u ↔
      ∃ t rest, ts = t :: rest ∧ t.kind.startsTerm = true := by
  cases ts with
  | nil => exact ⟨nofun, nofun⟩
  | cons t rest =>
    rw [expectTerm]
    split
    · rename_i ht
      exact ⟨fun _ => ⟨t, rest, rfl, ht⟩, fun _ => rfl⟩
    · rename_i ht
      refine ⟨nofun, ?_⟩
      rintro ⟨t', rest', h, ht'⟩
      cases h
      exact absurd ht' ht

theorem closeGroup_eq_ok {t : Token} {p q : Query} {ts rest : List Token} :
    (closeGroup t p ts : Reading Id) = .ok (q, rest) ↔
      ∃ c, c.kind = .closing ∧ ts = c :: rest ∧ p = q := by
  cases ts with
  | nil => exact ⟨nofun, nofun⟩
  | cons c ts =>
    rw [closeGroup]
    split
    · rename_i hc
      refine ⟨fun h => by cases h; exact ⟨c, hc, rfl, rfl⟩, ?_⟩
      rintro ⟨c', -, h, rfl⟩
      cases h
      rfl
    · rename_i hc
      refine ⟨nofun, ?_⟩
      rintro ⟨c', hc', h, -⟩
      cases h
      exact absurd hc' hc

theorem patternOfToken_eq_ok {source flags : String} {p : Pattern} :
    (Pattern.ofToken Pattern.make source flags : ExceptT Cause Id Pattern) = .ok p ↔
      Pattern.make source flags = .ok p := by
  change (Pattern.make source flags).mapError Cause.ofRefusal = .ok p ↔ _
  cases Pattern.make source flags with
  | ok p' => exact ⟨fun h => by cases h; rfl, fun h => by cases h; rfl⟩
  | error r => exact ⟨nofun, nofun⟩

theorem patternOfToken_eq_error {source flags : String} {cause : Cause} :
    (Pattern.ofToken Pattern.make source flags : ExceptT Cause Id Pattern) = .error cause ↔
      ∃ r, Pattern.make source flags = .error r ∧ Cause.ofRefusal r = cause := by
  change (Pattern.make source flags).mapError Cause.ofRefusal = .error cause ↔ _
  cases Pattern.make source flags with
  | ok p => exact ⟨nofun, fun ⟨_, h, _⟩ => nomatch h⟩
  | error r =>
    refine ⟨fun h => ⟨r, rfl, by cases h; rfl⟩, ?_⟩
    rintro ⟨_, h, rfl⟩
    cases h
    rfl

/-! ## What is read is a derivation -/

/-- **What a call has read**: on success, the tokens before the rest derive the query, together with
the tokens `before` that were read earlier. -/
def Gives (l : Level) (before ts : List Token) (x : Reading Id) : Prop :=
  ∀ {q rest}, x = .ok (q, rest) → ∃ us, ts = us ++ rest ∧ Derives l (before ++ us) q

/-- What all calls with a bound have read. -/
structure ReadsSoundly (n : Nat) : Prop where
  either (ts : List Token) : Gives .either [] ts (readEither Pattern.make n ts)
  eitherAfter {before : List Token} {left : Query} (h : Derives .either before left)
    (ts : List Token) : Gives .either before ts (readEitherAfter Pattern.make n left ts)
  both (ts : List Token) : Gives .both [] ts (readBoth Pattern.make n ts)
  bothAfter {before : List Token} {left : Query} (h : Derives .both before left)
    (ts : List Token) : Gives .both before ts (readBothAfter Pattern.make n left ts)
  negation (ts : List Token) : Gives .negation [] ts (readNegation Pattern.make n ts)
  term (t : Token) (ts : List Token) : Gives .term [] (t :: ts) (readTerm Pattern.make n t ts)

/-- A loop that stops at once adds nothing. -/
theorem gives_stop {l : Level} {before ts : List Token} {left : Query}
    (h : Derives l before left) : Gives l before ts (pure (left, ts)) := by
  intro q rest hx
  cases hx
  exact ⟨[], rfl, by rwa [List.append_nil]⟩

theorem readComparison_gives (t : Token) {name : String} {op : CompareOp}
    (ht : t.kind = .comparison name op) (ts : List Token) :
    Gives .term [] (t :: ts) (readComparison Pattern.make t name op ts) := by
  intro q rest hx
  unfold readComparison at hx
  split at hx
  · cases hx
  · rename_i field hf
    split at hx
    · rename_i ho
      split at hx
      · cases hx
      · rename_i v after
        split at hx
        · rename_i hv
          obtain ⟨hval, hadj⟩ := Bool.and_eq_true_iff.mp hv
          obtain ⟨value, hm, hq⟩ := bind_eq_ok.mp hx
          cases hq
          have hc : Compares t v field op value :=
            ⟨⟨⟨name, ht, hf⟩, mem_operators_iff.mpr ho, hval, beq_iff_eq.mp hadj⟩,
              adapt_eq_ok.mp hm⟩
          exact ⟨[t, v], rfl, hc.derives⟩
        · cases hx
    · cases hx

section Step

variable {n : Nat} (ih : ReadsSoundly n)
include ih

theorem ReadsSoundly.either_succ (ts : List Token) :
    Gives .either [] ts (readEither Pattern.make (n + 1) ts) := by
  intro q rest hx
  obtain ⟨⟨first, mid⟩, hfirst, hrest⟩ := bind_eq_ok.mp (by rwa [readEither] at hx)
  obtain ⟨us, rfl, hus⟩ := ih.both ts hfirst
  obtain ⟨vs, rfl, hvs⟩ := ih.eitherAfter (.ofBoth hus) mid hrest
  exact ⟨us ++ vs, (List.append_assoc ..).symm, hvs⟩

theorem ReadsSoundly.eitherAfter_succ {before : List Token} {left : Query}
    (h : Derives .either before left) (ts : List Token) :
    Gives .either before ts (readEitherAfter Pattern.make (n + 1) left ts) := by
  cases ts with
  | nil => exact gives_stop h
  | cons t ts =>
    rw [readEitherAfter]
    split
    · rename_i ht
      intro q rest hx
      obtain ⟨-, -, hx⟩ := bind_eq_ok.mp hx
      obtain ⟨⟨right, mid⟩, hright, hrest⟩ := bind_eq_ok.mp hx
      obtain ⟨us, rfl, hus⟩ := ih.both ts hright
      obtain ⟨vs, rfl, hvs⟩ := ih.eitherAfter (h.or ht hus) mid hrest
      exact ⟨t :: us ++ vs, by simp, by simpa using hvs⟩
    · exact gives_stop h

theorem ReadsSoundly.both_succ (ts : List Token) :
    Gives .both [] ts (readBoth Pattern.make (n + 1) ts) := by
  intro q rest hx
  obtain ⟨⟨first, mid⟩, hfirst, hrest⟩ := bind_eq_ok.mp (by rwa [readBoth] at hx)
  obtain ⟨us, rfl, hus⟩ := ih.negation ts hfirst
  obtain ⟨vs, rfl, hvs⟩ := ih.bothAfter (.ofNegation hus) mid hrest
  exact ⟨us ++ vs, (List.append_assoc ..).symm, hvs⟩

theorem ReadsSoundly.bothAfter_succ {before : List Token} {left : Query}
    (h : Derives .both before left) (ts : List Token) :
    Gives .both before ts (readBothAfter Pattern.make (n + 1) left ts) := by
  cases ts with
  | nil => exact gives_stop h
  | cons t ts =>
    rw [readBothAfter]
    split
    · rename_i ht
      intro q rest hx
      obtain ⟨-, -, hx⟩ := bind_eq_ok.mp hx
      obtain ⟨⟨right, mid⟩, hright, hrest⟩ := bind_eq_ok.mp hx
      obtain ⟨us, rfl, hus⟩ := ih.negation ts hright
      obtain ⟨vs, rfl, hvs⟩ := ih.bothAfter (h.and ht hus) mid hrest
      exact ⟨t :: us ++ vs, by simp, by simpa using hvs⟩
    split
    · intro q rest hx
      obtain ⟨⟨right, mid⟩, hright, hrest⟩ := bind_eq_ok.mp hx
      obtain ⟨us, hts, hus⟩ := ih.negation (t :: ts) hright
      obtain ⟨vs, rfl, hvs⟩ := ih.bothAfter (h.beside hus) mid hrest
      exact ⟨us ++ vs, by rw [hts, List.append_assoc], by simpa using hvs⟩
    · exact gives_stop h

theorem ReadsSoundly.negation_succ (ts : List Token) :
    Gives .negation [] ts (readNegation Pattern.make (n + 1) ts) := by
  cases ts with
  | nil => nofun
  | cons t ts =>
    rw [readNegation]
    intro q rest hx
    split at hx
    · rename_i ht
      obtain ⟨-, -, hx⟩ := bind_eq_ok.mp hx
      obtain ⟨⟨operand, mid⟩, hoperand, hq⟩ := bind_eq_ok.mp hx
      cases hq
      obtain ⟨us, rfl, hus⟩ := ih.negation ts hoperand
      exact ⟨t :: us, rfl, .not ht hus⟩
    · obtain ⟨us, hts, hus⟩ := ih.term t ts hx
      exact ⟨us, hts, .ofTerm hus⟩

theorem ReadsSoundly.term_succ (t : Token) (ts : List Token) :
    Gives .term [] (t :: ts) (readTerm Pattern.make (n + 1) t ts) := by
  intro q rest hx
  unfold readTerm at hx
  split at hx
  · -- a group: its query ends where the parenthesis closes
    rename_i ht
    split at hx
    · cases hx
    · rename_i c after
      split at hx
      · cases hx
      · obtain ⟨⟨inner, mid⟩, hinner, hclose⟩ := bind_eq_ok.mp hx
        obtain ⟨us, hus, hd⟩ := ih.either (c :: after) hinner
        obtain ⟨d, hclosing, rfl, rfl⟩ := closeGroup_eq_ok.mp hclose
        exact ⟨t :: us ++ [d], by rw [hus]; simp, .group ht hd hclosing⟩
  · rename_i name op ht
    exact readComparison_gives t ht ts hx
  · rename_i ht
    cases hx
    exact ⟨[t], rfl, .exactName ht⟩
  · rename_i ht
    cases hx
    exact ⟨[t], rfl, .bare (.inl ht)⟩
  · rename_i ht
    cases hx
    exact ⟨[t], rfl, .bare (.inr ht)⟩
  · rename_i flags ht
    obtain ⟨p, hp, hq⟩ := bind_eq_ok.mp hx
    cases hq
    exact ⟨[t], rfl, .pattern ht (patternOfToken_eq_ok.mp (adapt_eq_ok.mp hp))⟩
  all_goals cases hx

end Step

theorem readsSoundly (n : Nat) : ReadsSoundly n := by
  induction n with
  | zero => constructor <;> intros <;> intro q rest hx <;> cases hx
  | succ n ih =>
    exact ⟨ih.either_succ, ih.eitherAfter_succ, ih.both_succ, ih.bothAfter_succ, ih.negation_succ,
      ih.term_succ⟩

/-! ## A derivation is read

The bounds add up because a level adds at most one call to the calls of the level below, and a loop
goes round once for each operand, of which there are no more than tokens. -/

/-- No further operand of `AND` follows. -/
def EndsBoth (rest : List Token) : Prop :=
  ∀ t ∈ rest.head?, t.kind ≠ .and ∧ t.kind.startsTerm = false

/-- **What the reader does with tokens** that stand before any others: a dash or a term is read off,
and a chain is read up to the place where its loop looks for another operand. -/
def Reads : Level → List Token → Query → Prop
  | .either, us, q => ∃ k, k ≤ us.length ∧ ∀ n rest, EndsBoth rest → 4 * us.length ≤ n →
      (readEither Pattern.make n (us ++ rest) : Reading Id)
        = readEitherAfter Pattern.make (n - k) q rest
  | .both, us, q => ∃ k, k ≤ us.length ∧ ∀ n rest, 4 * us.length ≤ n + 1 →
      (readBoth Pattern.make n (us ++ rest) : Reading Id)
        = readBothAfter Pattern.make (n - k) q rest
  | .negation, us, q => ∀ n rest, 4 * us.length ≤ n + 2 →
      (readNegation Pattern.make n (us ++ rest) : Reading Id) = .ok (q, rest)
  | .term, us, q => ∃ t vs, us = t :: vs ∧ ∀ n rest, 4 * us.length ≤ n + 3 →
      (readTerm Pattern.make n t (vs ++ rest) : Reading Id) = .ok (q, rest)

/-- A loop over `AND` stops where no operand follows. -/
theorem readBothAfter_stop (n : Nat) (q : Query) {rest : List Token} (h : EndsBoth rest) :
    (readBothAfter Pattern.make (n + 1) q rest : Reading Id) = .ok (q, rest) := by
  cases rest with
  | nil => rfl
  | cons t rest =>
    obtain ⟨hand, hstart⟩ := h t rfl
    rw [readBothAfter, if_neg hand, if_neg (by rw [hstart]; nofun)]
    rfl

/-- A loop over `OR` stops where no `OR` follows. -/
theorem readEitherAfter_stop (n : Nat) (q : Query) {rest : List Token}
    (h : ∀ t ∈ rest.head?, t.kind ≠ .or) :
    (readEitherAfter Pattern.make (n + 1) q rest : Reading Id) = .ok (q, rest) := by
  cases rest with
  | nil => rfl
  | cons t rest =>
    rw [readEitherAfter, if_neg (h t rfl)]
    rfl

/-- Operands of `AND` are read off where no further one follows. -/
theorem Reads.both_eq_ok {us : List Token} {q : Query} (h : Reads .both us q) (hne : us ≠ [])
    {n : Nat} {rest : List Token} (hrest : EndsBoth rest) (hn : 4 * us.length ≤ n + 1) :
    (readBoth Pattern.make n (us ++ rest) : Reading Id) = .ok (q, rest) := by
  obtain ⟨k, hk, h⟩ := h
  have hpos : 0 < us.length := List.length_pos_iff.mpr hne
  obtain ⟨m, hm⟩ : ∃ m, n - k = m + 1 := ⟨n - k - 1, by omega⟩
  rw [h n rest hn, hm, readBothAfter_stop m q hrest]

theorem Derives.ne_nil {l : Level} {ts : List Token} {q : Query} (h : Derives l ts q) :
    ts ≠ [] := by
  obtain ⟨t, rest, rfl, -⟩ := h.startsTerm
  nofun

theorem Derives.expectTerm {l : Level} {ts : List Token} {q : Query} (h : Derives l ts q)
    (o : Token) (rest : List Token) :
    (Query.expectTerm o (ts ++ rest) : ExceptT Failure Id Unit) = .ok () := by
  obtain ⟨t, ts', rfl, ht⟩ := h.startsTerm
  exact expectTerm_eq_ok.mpr ⟨t, ts' ++ rest, rfl, ht⟩

/-- What is left to do at a comparison is to make its value. -/
theorem Asks.readTerm {t v : Token} {field : Field} {op : CompareOp} (h : Asks t v field op)
    (n : Nat) (rest : List Token) :
    (Query.readTerm Pattern.make (n + 1) t (v :: rest) : Reading Id) = (do
      let value ← (Value.ofToken (m := Id) Pattern.make field op v).adapt fun cause =>
        (⟨cause, v.place, v :: rest⟩ : Failure)
      return (comparing field op value, rest)) := by
  obtain ⟨name, ht, hfield⟩ := h.named
  have hv : (v.kind.isValue && v.follows t) = true :=
    Bool.and_eq_true_iff.mpr ⟨h.isValue, beq_iff_eq.mpr h.adjacent⟩
  unfold Query.readTerm readComparison
  simp only [ht, hfield, if_pos (mem_operators_iff.mp h.admitted), if_pos hv]

/-- A comparison is read whichever way it is stored. -/
theorem Compares.reads {t v : Token} {field : Field} {op : CompareOp} {value : Value}
    (h : Compares t v field op value) :
    Reads .term [t, v] (comparing field op value) := by
  refine ⟨t, [v], rfl, fun n rest hn => ?_⟩
  obtain ⟨m, rfl⟩ : ∃ m, n = m + 1 := ⟨n - 1, by simp at hn; omega⟩
  exact (h.readTerm m rest).trans (bind_of_ok (adapt_eq_ok.mpr h.typed))

/-! ### One rule after the other -/

section Rules

variable {ts us : List Token} {p q : Query} {t c : Token}

theorem reads_ofTerm (hd : Derives .term us q) (h : Reads .term us q) : Reads .negation us q := by
  obtain ⟨t, vs, rfl, h⟩ := h
  obtain ⟨t', vs', he, hnot⟩ := hd.term_head
  cases he
  intro n rest hn
  obtain ⟨m, rfl⟩ : ∃ m, n = m + 1 := ⟨n - 1, by simp at hn; omega⟩
  rw [List.cons_append, readNegation, if_neg hnot]
  exact h m rest (by omega)

theorem reads_not (ht : t.kind = .not) (hd : Derives .negation us q) (h : Reads .negation us q) :
    Reads .negation (t :: us) (.not q) := by
  intro n rest hn
  rw [List.length_cons] at hn
  obtain ⟨m, rfl⟩ : ∃ m, n = m + 1 := ⟨n - 1, by omega⟩
  rw [List.cons_append, readNegation, if_pos ht, bind_of_ok (hd.expectTerm t rest),
    bind_of_ok (h m rest (by omega))]
  rfl

theorem reads_ofNegation (hd : Derives .negation us q) (h : Reads .negation us q) :
    Reads .both us q := by
  have hpos : 0 < us.length := List.length_pos_iff.mpr hd.ne_nil
  refine ⟨1, hpos, fun n rest hn => ?_⟩
  obtain ⟨m, rfl⟩ : ∃ m, n = m + 1 := ⟨n - 1, by omega⟩
  rw [readBoth, bind_of_ok (h m rest (by omega)), Nat.add_sub_cancel]

theorem reads_and (hp : Reads .both ts p) (ht : t.kind = .and) (hd : Derives .negation us q)
    (hq : Reads .negation us q) : Reads .both (ts ++ t :: us) (.and p q) := by
  obtain ⟨k, hk, hp⟩ := hp
  refine ⟨k + 1, by simp; omega, fun n rest hn => ?_⟩
  rw [List.length_append, List.length_cons] at hn
  obtain ⟨m, hm⟩ : ∃ m, n - k = m + 1 := ⟨n - k - 1, by omega⟩
  rw [List.append_assoc, hp n _ (by omega), hm, List.cons_append, readBothAfter, if_pos ht,
    bind_of_ok (hd.expectTerm t rest), bind_of_ok (hq m rest (by omega)),
    show n - (k + 1) = m by omega]

theorem reads_beside (hp : Reads .both ts p) (hd : Derives .negation us q)
    (hq : Reads .negation us q) : Reads .both (ts ++ us) (.and p q) := by
  obtain ⟨k, hk, hp⟩ := hp
  obtain ⟨t, vs, rfl, ht⟩ := hd.startsTerm
  refine ⟨k + 1, by simp; omega, fun n rest hn => ?_⟩
  rw [List.length_append, List.length_cons] at hn
  obtain ⟨m, hm⟩ : ∃ m, n - k = m + 1 := ⟨n - k - 1, by omega⟩
  have hand : t.kind ≠ .and := fun e => by rw [e] at ht; cases ht
  rw [List.append_assoc, hp n _ (by omega), hm, List.cons_append, readBothAfter, if_neg hand,
    if_pos ht, ← List.cons_append, bind_of_ok (hq m rest (by simp; omega)),
    show n - (k + 1) = m by omega]

theorem reads_ofBoth (hd : Derives .both us q) (h : Reads .both us q) : Reads .either us q := by
  have hpos : 0 < us.length := List.length_pos_iff.mpr hd.ne_nil
  refine ⟨1, hpos, fun n rest hrest hn => ?_⟩
  obtain ⟨m, rfl⟩ : ∃ m, n = m + 1 := ⟨n - 1, by omega⟩
  rw [readEither, bind_of_ok (h.both_eq_ok hd.ne_nil hrest (by omega)), Nat.add_sub_cancel]

theorem reads_or (hp : Reads .either ts p) (ht : t.kind = .or) (hd : Derives .both us q)
    (hq : Reads .both us q) : Reads .either (ts ++ t :: us) (.or p q) := by
  obtain ⟨k, hk, hp⟩ := hp
  refine ⟨k + 1, by simp; omega, fun n rest hrest hn => ?_⟩
  rw [List.length_append, List.length_cons] at hn
  obtain ⟨m, hm⟩ : ∃ m, n - k = m + 1 := ⟨n - k - 1, by omega⟩
  have hends : EndsBoth (t :: us ++ rest) := by
    intro t' he
    cases he
    rw [ht]
    exact ⟨nofun, rfl⟩
  rw [List.append_assoc, hp n _ hends (by omega), hm, List.cons_append, readEitherAfter,
    if_pos ht, bind_of_ok (hd.expectTerm t rest),
    bind_of_ok (hq.both_eq_ok hd.ne_nil hrest (by omega)), show n - (k + 1) = m by omega]

/-- The closing parenthesis ends the query of a group. -/
theorem reads_group (ht : t.kind = .opening) (hd : Derives .either ts q) (h : Reads .either ts q)
    (hc : c.kind = .closing) : Reads .term (t :: ts ++ [c]) q := by
  refine ⟨t, ts ++ [c], rfl, fun n rest hn => ?_⟩
  rw [List.length_append, List.length_cons, List.length_singleton] at hn
  obtain ⟨n, rfl⟩ : ∃ m, n = m + 1 := ⟨n - 1, by omega⟩
  obtain ⟨k, hk, h⟩ := h
  have hends : EndsBoth (c :: rest) := by
    intro t' he
    cases he
    rw [hc]
    exact ⟨nofun, rfl⟩
  obtain ⟨m, hm⟩ : ∃ m, n - k = m + 1 := ⟨n - k - 1, by omega⟩
  have hinner : (readEither Pattern.make n (ts ++ c :: rest) : Reading Id)
      = .ok (q, c :: rest) := by
    rw [h n (c :: rest) hends (by omega), hm]
    refine readEitherAfter_stop m q fun t' he => ?_
    cases he
    rw [hc]
    nofun
  obtain ⟨t', ts', rfl, hstart⟩ := hd.startsTerm
  have hne : t'.kind ≠ .closing := fun e => by rw [e] at hstart; cases hstart
  rw [List.append_assoc, List.cons_append, readTerm]
  simp only [ht, if_neg hne]
  refine (bind_of_ok hinner).trans ?_
  exact closeGroup_eq_ok.mpr ⟨c, hc, rfl, rfl⟩

/-- A single token is a term by its kind. -/
theorem reads_single
    (h : ∀ n rest, (readTerm Pattern.make (n + 1) t rest : Reading Id) = .ok (q, rest)) :
    Reads .term [t] q := by
  refine ⟨t, [], rfl, fun n rest hn => ?_⟩
  obtain ⟨m, rfl⟩ : ∃ m, n = m + 1 := ⟨n - 1, by simp at hn; omega⟩
  exact h m rest

end Rules

/-- **Whatever derives a query is read as that query.** -/
theorem Derives.reads {l : Level} {ts : List Token} {q : Query} (h : Derives l ts q) :
    Reads l ts q := by
  induction h with
  | ofBoth hd ih => exact reads_ofBoth hd ih
  | or _ ht hd ihp ihq => exact reads_or ihp ht hd ihq
  | ofNegation hd ih => exact reads_ofNegation hd ih
  | and _ ht hd ihp ihq => exact reads_and ihp ht hd ihq
  | beside _ hd ihp ihq => exact reads_beside ihp hd ihq
  | ofTerm hd ih => exact reads_ofTerm hd ih
  | not ht hd ih => exact reads_not ht hd ih
  | group ht hd hc ih => exact reads_group ht hd ih hc
  | exactName ht => exact reads_single fun n rest => by unfold readTerm; simp only [ht]; rfl
  | bare ht =>
    refine reads_single fun n rest => ?_
    unfold readTerm
    rcases ht with ht | ht <;> simp only [ht] <;> rfl
  | pattern ht hp =>
    refine reads_single fun n rest => ?_
    unfold readTerm
    simp only [ht]
    exact bind_of_ok (adapt_eq_ok.mpr (patternOfToken_eq_ok.mpr hp))
  | compare hc hn => exact comparing_eq_compare hn ▸ hc.reads
  | colorless hc hn => exact comparing_eq_exactly hn ▸ hc.reads

/-! ## Tokens and queries -/

/-- The reading of all tokens succeeds if nothing is left over. -/
theorem ofTokens_eq_ok {ts : List Token} {q : Query} :
    ofTokens ts = .ok q ↔
      (readEither Pattern.make (4 * ts.length + 4) ts : Reading Id) = .ok (q, []) := by
  change (readAll Pattern.make ts : ExceptT Failure Id Query) = .ok q ↔ _
  rw [readAll]
  split
  · rename_i he
    obtain rfl : ts = [] := List.isEmpty_iff.mp he
    exact ⟨nofun, nofun⟩
  · rw [bind_eq_ok]
    constructor
    · rintro ⟨⟨p, rest⟩, hp, hq⟩
      cases rest with
      | nil =>
        cases hq
        exact hp
      | cons t rest =>
        dsimp only at hq
        split at hq <;> cases hq
    · exact fun h => ⟨(q, []), h, rfl⟩

/-- A query is read off tokens exactly if they derive it. -/
theorem ofTokens_eq_ok_iff {ts : List Token} {q : Query} :
    ofTokens ts = .ok q ↔ Derives .either ts q := by
  rw [ofTokens_eq_ok]
  constructor
  · intro h
    obtain ⟨us, hus, hd⟩ := (readsSoundly _).either ts h
    rw [List.append_nil] at hus
    exact hus ▸ hd
  · intro hd
    obtain ⟨k, hk, h⟩ := hd.reads
    have hends : EndsBoth [] := nofun
    have hread := h (4 * ts.length + 4) [] hends (by omega)
    rw [List.append_nil] at hread
    obtain ⟨m, hm⟩ : ∃ m, 4 * ts.length + 4 - k = m + 1 := ⟨4 * ts.length + 3 - k, by omega⟩
    rw [hread, hm]
    rfl

/-! ## Texts -/

theorem parse_of_rejection {text : String} {r : Rejection} (h : tokenize text = .error r) :
    parse text = .error (.rejected r) := by
  change (parseWith (m := Id) Pattern.make text : ExceptT Fault Id Query) = _
  rw [parseWith, h]
  rfl

/-- The tokens of a text decide what it is. -/
theorem parse_of_tokens {text : String} {ts : List Token} (h : tokenize text = .ok ts) :
    parse text = (show ExceptT Failure Id Query from ofTokens ts).adapt (faultOf text) := by
  change (parseWith (m := Id) Pattern.make text : ExceptT Fault Id Query) = _
  rw [parseWith, h]
  rfl

/-- A text is a query exactly if its tokens are. -/
theorem parse_eq_ok {text : String} {q : Query} :
    parse text = .ok q ↔ ∃ ts, tokenize text = .ok ts ∧ ofTokens ts = .ok q := by
  cases htokens : tokenize text with
  | error r =>
    rw [parse_of_rejection htokens]
    exact ⟨nofun, fun ⟨_, h, _⟩ => nomatch h⟩
  | ok ts =>
    rw [parse_of_tokens htokens]
    refine adapt_eq_ok.trans ⟨fun h => ⟨ts, rfl, h⟩, ?_⟩
    rintro ⟨ts', h, hq⟩
    cases h
    exact hq

/-- A comparison with its value is a query. -/
theorem parse_of_compares {text : String} {t v : Token} {field : Field} {op : CompareOp}
    {value : Value} (htokens : (tokenize text).toOption = some [t, v])
    (h : Compares t v field op value) (hn : ¬ AsksNoColor field op value) :
    Query.parse text = .ok (.compare field op value) :=
  parse_eq_ok.mpr ⟨_, eq_ok_of_toOption htokens,
    ofTokens_eq_ok_iff.mpr (.ofBoth (.ofNegation (.ofTerm (.compare h hn))))⟩

/-- **The reader accepts exactly the grammar**: it gives a query exactly if the tokens derive it,
tokens derive no two queries, and on tokens that derive none it fails. -/
theorem reader_accepts_grammar (ts : List Token) :
    (∀ q, ofTokens ts = .ok q ↔ Derives .either ts q)
      ∧ (∀ p q, Derives .either ts p → Derives .either ts q → p = q)
      ∧ ((∀ q, ¬ Derives .either ts q) ↔ ∃ f, ofTokens ts = .error f) := by
  refine ⟨fun q => ofTokens_eq_ok_iff, fun p q hp hq => ?_, ?_⟩
  · have h := (ofTokens_eq_ok_iff.mpr hp).symm.trans (ofTokens_eq_ok_iff.mpr hq)
    cases h
    rfl
  · constructor
    · intro hnone
      cases h : ofTokens ts with
      | ok q => exact absurd (ofTokens_eq_ok_iff.mp h) (hnone q)
      | error f => exact ⟨f, rfl⟩
    · rintro ⟨f, hf⟩ q hq
      rw [ofTokens_eq_ok_iff.mpr hq] at hf
      cases hf

end Grammar

end CardQuery

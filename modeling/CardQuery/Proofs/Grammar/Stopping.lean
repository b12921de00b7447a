import CardQuery.Proofs.Grammar.Reading

/-!
# Proofs/Grammar/Stopping — where and why reading stops, as derivations

`Stops l ts f` says that the tokens `ts` begin no query of the level `l`, and that `f` is the first
thing that is wrong with them.  As in the grammar itself nothing is read here: a rule takes what
stands before the failure for a part of a query (`Derives`), and goes on into the part that fails.

* `ofTokens_eq_error_iff` — the reader fails exactly as `Rejects` says, so it never runs out of its
  bound and never misses a term that it looks for.
* `readEither_ends` — behind the part that it reads there is a closing parenthesis or nothing.

Facts about failures are proved by induction on `Stops`.
-/

namespace CardQuery

namespace Grammar

open Query

/-! ## Failures -/

/-- A term may begin with the first of some tokens. -/
def BeginsTerm (ts : List Token) : Prop := ∃ t rest, ts = t :: rest ∧ t.kind.startsTerm = true

/-- **No term follows an operator**: the query ends behind it, or another token stands there. -/
inductive Misses (operator : Token) : List Token → Failure → Prop where
  | atEnd : Misses operator [] ⟨.problem (.missingTerm operator.text), operator.place, []⟩
  | before {t : Token} {ts : List Token} : t.kind.startsTerm = false →
      Misses operator (t :: ts) ⟨.problem (.missingTerm operator.text), t.place, t :: ts⟩

/-- **The first tokens are no term**, and no group either: the failure of a single token or of a
comparison. -/
inductive Refuses : List Token → Failure → Prop where
  | closing {t : Token} {ts : List Token} :
      t.kind = .closing → Refuses (t :: ts) ⟨.problem .strayParenthesis, t.place, ts⟩
  | connective {t : Token} {ts : List Token} :
      t.kind = .and ∨ t.kind = .or →
      Refuses (t :: ts) ⟨.problem (.unexpectedToken t.text), t.place, ts⟩
  | pattern {t : Token} {ts : List Token} {flags : String} {r : Regex.Refusal} :
      t.kind = .pattern flags → Pattern.make t.text flags = .error r →
      Refuses (t :: ts) ⟨.ofRefusal r, t.place, t :: ts⟩
  | unknownField {t : Token} {ts : List Token} {name : String} {op : CompareOp} :
      t.kind = .comparison name op → Field.ofAlias? name = none →
      Refuses (t :: ts)
        ⟨.problem (.unknownField name), .span t.start (t.start + name.length), ts⟩
  | operator {t : Token} {ts : List Token} {name : String} {op : CompareOp} {field : Field} :
      t.kind = .comparison name op → Field.ofAlias? name = some field → op ∉ field.operators →
      Refuses (t :: ts) ⟨.problem (.unsupportedOperator op field), t.place, ts⟩
  | noValue {t : Token} {name : String} {op : CompareOp} {field : Field} :
      t.kind = .comparison name op → Field.ofAlias? name = some field → op ∈ field.operators →
      Refuses [t] ⟨.problem (.missingValue t.text), .queryEnd, []⟩
  | notValue {t v : Token} {ts : List Token} {name : String} {op : CompareOp} {field : Field} :
      t.kind = .comparison name op → Field.ofAlias? name = some field → op ∈ field.operators →
      ¬ (v.kind.isValue = true ∧ v.start = t.stop) →
      Refuses (t :: v :: ts) ⟨.problem (.missingValue t.text), v.place, v :: ts⟩
  | value {t v : Token} {ts : List Token} {op : CompareOp} {field : Field} {cause : Cause} :
      Asks t v field op → Value.ofToken (m := Id) Pattern.make field op v = .error cause →
      Refuses (t :: v :: ts) ⟨cause, v.place, v :: ts⟩

/-- **The tokens begin no query of a level**, and the failure is the first thing wrong with them. -/
inductive Stops : Level → List Token → Failure → Prop where
  | ofBoth {ts : List Token} {f : Failure} : Stops .both ts f → Stops .either ts f
  | orMisses {us ts : List Token} {t : Token} {p : Query} {f : Failure} :
      Derives .either us p → t.kind = .or → Misses t ts f → Stops .either (us ++ t :: ts) f
  | or {us ts : List Token} {t : Token} {p : Query} {f : Failure} :
      Derives .either us p → t.kind = .or → BeginsTerm ts → Stops .both ts f →
      Stops .either (us ++ t :: ts) f
  | ofNegation {ts : List Token} {f : Failure} : Stops .negation ts f → Stops .both ts f
  | andMisses {us ts : List Token} {t : Token} {p : Query} {f : Failure} :
      Derives .both us p → t.kind = .and → Misses t ts f → Stops .both (us ++ t :: ts) f
  | and {us ts : List Token} {t : Token} {p : Query} {f : Failure} :
      Derives .both us p → t.kind = .and → BeginsTerm ts → Stops .negation ts f →
      Stops .both (us ++ t :: ts) f
  | beside {us ts : List Token} {p : Query} {f : Failure} :
      Derives .both us p → BeginsTerm ts → Stops .negation ts f → Stops .both (us ++ ts) f
  | ofTerm {t : Token} {ts : List Token} {f : Failure} :
      t.kind ≠ .not → Stops .term (t :: ts) f → Stops .negation (t :: ts) f
  | notMisses {t : Token} {ts : List Token} {f : Failure} :
      t.kind = .not → Misses t ts f → Stops .negation (t :: ts) f
  | not {t : Token} {ts : List Token} {f : Failure} :
      t.kind = .not → BeginsTerm ts → Stops .negation ts f → Stops .negation (t :: ts) f
  | refuses {ts : List Token} {f : Failure} : Refuses ts f → Stops .term ts f
  | emptyGroup {t c : Token} {ts : List Token} : t.kind = .opening → c.kind = .closing →
      Stops .term (t :: c :: ts) ⟨.problem .emptyParentheses, c.place, c :: ts⟩
  | inGroup {t : Token} {ts : List Token} {f : Failure} :
      t.kind = .opening → (∀ c ∈ ts.head?, c.kind ≠ .closing) → Stops .either ts f →
      Stops .term (t :: ts) f
  | openGroup {t : Token} {ts : List Token} {q : Query} :
      t.kind = .opening → Derives .either ts q →
      Stops .term (t :: ts) ⟨.problem .openParenthesis, t.place, []⟩
  | openEnd {t : Token} :
      t.kind = .opening → Stops .term [t] ⟨.problem .openParenthesis, t.place, []⟩

/-- **Tokens that are no query.** -/
inductive Rejects : List Token → Failure → Prop where
  | empty : Rejects [] ⟨.problem .emptyQuery, .queryEnd, []⟩
  | stops {ts : List Token} {f : Failure} : Stops .either ts f → Rejects ts f
  | stray {us ts : List Token} {c : Token} {q : Query} :
      Derives .either us q → c.kind = .closing →
      Rejects (us ++ c :: ts) ⟨.problem .strayParenthesis, c.place, c :: ts⟩

/-! ## Where a part of a query ends -/

/-- No operand follows behind what the loop over `AND` has read. -/
theorem readBothAfter_ends {n : Nat} {left q : Query} {ts rest : List Token}
    (h : (readBothAfter Pattern.make n left ts : Reading Id) = .ok (q, rest)) : EndsBoth rest := by
  induction n generalizing left ts with
  | zero => cases h
  | succ n ih =>
    cases ts with
    | nil =>
      cases h
      nofun
    | cons t ts =>
      rw [readBothAfter] at h
      split at h
      · obtain ⟨-, -, h⟩ := bind_eq_ok.mp h
        obtain ⟨⟨right, mid⟩, -, h⟩ := bind_eq_ok.mp h
        exact ih h
      split at h
      · obtain ⟨⟨right, mid⟩, -, h⟩ := bind_eq_ok.mp h
        exact ih h
      · rename_i hand hstart
        cases h
        intro t' he
        cases he
        exact ⟨hand, by simpa using hstart⟩

theorem readBoth_ends {n : Nat} {q : Query} {ts rest : List Token}
    (h : (readBoth Pattern.make n ts : Reading Id) = .ok (q, rest)) : EndsBoth rest := by
  cases n with
  | zero => cases h
  | succ n =>
    rw [readBoth] at h
    obtain ⟨⟨first, mid⟩, -, h⟩ := bind_eq_ok.mp h
    exact readBothAfter_ends h

/-- A token that goes on with no operand and is no `OR` closes a group. -/
theorem kind_eq_closing {t : Token} {rest : List Token} (h : EndsBoth (t :: rest))
    (hor : t.kind ≠ .or) : t.kind = .closing := by
  obtain ⟨hand, hstart⟩ := h t rfl
  cases hkind : t.kind with
  | closing => rfl
  | and => exact absurd hkind hand
  | or => exact absurd hkind hor
  | _ =>
    rw [hkind] at hstart
    cases hstart

theorem readEitherAfter_ends {n : Nat} {left q : Query} {ts rest : List Token} (hts : EndsBoth ts)
    (h : (readEitherAfter Pattern.make n left ts : Reading Id) = .ok (q, rest)) :
    ∀ t ∈ rest.head?, t.kind = .closing := by
  induction n generalizing left ts with
  | zero => cases h
  | succ n ih =>
    cases ts with
    | nil =>
      cases h
      nofun
    | cons t ts =>
      rw [readEitherAfter] at h
      split at h
      · obtain ⟨-, -, h⟩ := bind_eq_ok.mp h
        obtain ⟨⟨right, mid⟩, hright, h⟩ := bind_eq_ok.mp h
        exact ih (readBoth_ends hright) h
      · rename_i hor
        cases h
        intro t' he
        cases he
        exact kind_eq_closing hts hor

/-- **Behind what is read as a whole query there is a closing parenthesis or nothing.** -/
theorem readEither_ends {n : Nat} {q : Query} {ts rest : List Token}
    (h : (readEither Pattern.make n ts : Reading Id) = .ok (q, rest)) :
    ∀ t ∈ rest.head?, t.kind = .closing := by
  cases n with
  | zero => cases h
  | succ n =>
    rw [readEither] at h
    obtain ⟨⟨first, mid⟩, hfirst, h⟩ := bind_eq_ok.mp h
    exact readEitherAfter_ends (readBoth_ends hfirst) h

/-! ## Single tokens and comparisons -/

theorem BeginsTerm.ne_nil {ts : List Token} (h : BeginsTerm ts) : ts ≠ [] := by
  obtain ⟨t, rest, rfl, -⟩ := h
  nofun

theorem BeginsTerm.head_ne_closing {ts : List Token} (h : BeginsTerm ts) :
    ∀ c ∈ ts.head?, c.kind ≠ .closing := by
  obtain ⟨t, rest, rfl, ht⟩ := h
  intro c hc hclosing
  cases hc
  rw [hclosing] at ht
  cases ht

theorem expectTerm_eq_error {o : Token} {ts : List Token} {f : Failure} :
    (expectTerm o ts : ExceptT Failure Id Unit) = .error f ↔ Misses o ts f := by
  cases ts with
  | nil =>
    refine ⟨fun h => by cases h; exact .atEnd, fun h => ?_⟩
    cases h
    rfl
  | cons t ts =>
    rw [expectTerm]
    split
    · rename_i hstart
      refine ⟨fun h => ?_, fun h => ?_⟩
      · cases h
      · cases h with
        | before hnot =>
          rw [hstart] at hnot
          cases hnot
    · rename_i hstart
      refine ⟨fun h => by cases h; exact .before (by simpa using hstart), fun h => ?_⟩
      cases h
      rfl

theorem not_mem_operators_iff {field : Field} {op : CompareOp} :
    op ∉ field.operators ↔ ¬ field.kind.admits op = true := not_congr mem_operators_iff

theorem readComparison_refuses {t : Token} {name : String} {op : CompareOp}
    (ht : t.kind = .comparison name op) {ts : List Token} {f : Failure}
    (h : (readComparison Pattern.make t name op ts : Reading Id) = .error f) :
    Refuses (t :: ts) f := by
  unfold readComparison at h
  split at h
  · cases h
    exact .unknownField ht ‹_›
  rename_i field hfield
  split at h
  · rename_i hadmits
    have hop := mem_operators_iff.mpr hadmits
    split at h
    · cases h
      exact .noValue ht hfield hop
    rename_i v rest
    split at h
    · rename_i hv
      obtain ⟨hvalue, hadj⟩ := Bool.and_eq_true_iff.mp hv
      rcases bind_eq_error.mp h with h | ⟨value, -, h⟩
      · obtain ⟨cause, hcause, rfl⟩ := adapt_eq_error.mp h
        exact .value ⟨⟨name, ht, hfield⟩, hop, hvalue, beq_iff_eq.mp hadj⟩ hcause
      · cases h
    · rename_i hv
      cases h
      refine .notValue ht hfield hop fun ⟨hvalue, hadj⟩ => hv ?_
      exact Bool.and_eq_true_iff.mpr ⟨hvalue, beq_iff_eq.mpr hadj⟩
  · rename_i hadmits
    cases h
    exact .operator ht hfield (not_mem_operators_iff.mpr hadmits)

/-- What is refused begins with no dash. -/
theorem Refuses.head_ne_not {ts : List Token} {f : Failure} (h : Refuses ts f) :
    ∃ t rest, ts = t :: rest ∧ t.kind ≠ .not := by
  cases h with
  | closing ht | pattern ht _ | unknownField ht _ | operator ht _ _ | noValue ht _ _
  | notValue ht _ _ _ => exact ⟨_, _, rfl, by rw [ht]; nofun⟩
  | connective ht =>
    refine ⟨_, _, rfl, ?_⟩
    rcases ht with ht | ht <;> rw [ht] <;> nofun
  | value ha _ =>
    obtain ⟨name, ht, -⟩ := ha.named
    exact ⟨_, _, rfl, by rw [ht]; nofun⟩

/-- **What is refused is refused by the reader.** -/
theorem Refuses.readTerm {ts : List Token} {f : Failure} (h : Refuses ts f) (n : Nat) :
    ∃ t rest, ts = t :: rest
      ∧ (Query.readTerm Pattern.make (n + 1) t rest : Reading Id) = .error f := by
  cases h with
  | @closing t ts ht =>
    refine ⟨t, ts, rfl, ?_⟩
    unfold Query.readTerm
    simp only [ht]
    rfl
  | @connective t ts ht =>
    refine ⟨t, ts, rfl, ?_⟩
    unfold Query.readTerm
    rcases ht with ht | ht <;> simp only [ht] <;> rfl
  | @pattern t ts flags r ht hr =>
    refine ⟨t, ts, rfl, ?_⟩
    unfold Query.readTerm
    simp only [ht]
    exact bind_eq_error.mpr
      (.inl (adapt_eq_error.mpr ⟨_, patternOfToken_eq_error.mpr ⟨r, hr, rfl⟩, rfl⟩))
  | @unknownField t ts name op ht hfield =>
    refine ⟨t, ts, rfl, ?_⟩
    unfold Query.readTerm readComparison
    simp only [ht, hfield]
    rfl
  | @operator t ts name op field ht hfield hop =>
    refine ⟨t, ts, rfl, ?_⟩
    unfold Query.readTerm readComparison
    simp only [ht, hfield, if_neg (not_mem_operators_iff.mp hop)]
    rfl
  | @noValue t name op field ht hfield hop =>
    refine ⟨t, [], rfl, ?_⟩
    unfold Query.readTerm readComparison
    simp only [ht, hfield, if_pos (mem_operators_iff.mp hop)]
    rfl
  | @notValue t v ts name op field ht hfield hop hv =>
    refine ⟨t, v :: ts, rfl, ?_⟩
    have hnot : ¬ (v.kind.isValue && v.follows t) = true := fun h =>
      hv ((Bool.and_eq_true_iff.mp h).imp_right beq_iff_eq.mp)
    unfold Query.readTerm readComparison
    simp only [ht, hfield, if_pos (mem_operators_iff.mp hop), if_neg hnot]
    rfl
  | @value t v ts op field cause ha hcause =>
    refine ⟨t, v :: ts, rfl, (ha.readTerm n ts).trans ?_⟩
    exact bind_eq_error.mpr (.inl (adapt_eq_error.mpr ⟨cause, hcause, rfl⟩))

/-! ## The reader stops as derived

The bounds are those that the calls really get: four for each token that is left, and some more by
the level.  With them no call comes to the end of its bound. -/

/-- **How a call fails**: with the tokens `former` that were read earlier, as a derivation says. -/
def StopsAs (l : Level) (former ts : List Token) (x : Reading Id) : Prop :=
  ∀ {f}, x = .error f → Stops l (former ++ ts) f

/-- How all calls with a bound fail. -/
structure StopsSoundly (n : Nat) : Prop where
  either {ts : List Token} (hts : ts ≠ []) (h : 4 * ts.length + 4 ≤ n) :
    StopsAs .either [] ts (readEither Pattern.make n ts)
  eitherAfter {former : List Token} {left : Query} (hl : Derives .either former left)
    (ts : List Token) (h : 4 * ts.length + 1 ≤ n) :
    StopsAs .either former ts (readEitherAfter Pattern.make n left ts)
  both {ts : List Token} (hts : ts ≠ []) (h : 4 * ts.length + 3 ≤ n) :
    StopsAs .both [] ts (readBoth Pattern.make n ts)
  bothAfter {former : List Token} {left : Query} (hl : Derives .both former left)
    (ts : List Token) (h : 4 * ts.length + 3 ≤ n) :
    StopsAs .both former ts (readBothAfter Pattern.make n left ts)
  negation {ts : List Token} (hts : ts ≠ []) (h : 4 * ts.length + 2 ≤ n) :
    StopsAs .negation [] ts (readNegation Pattern.make n ts)
  term (t : Token) (ts : List Token) (hnot : t.kind ≠ .not) (h : 4 * ts.length + 5 ≤ n) :
    StopsAs .term [] (t :: ts) (readTerm Pattern.make n t ts)

section Step

variable {n : Nat} (ih : StopsSoundly n)
include ih

theorem StopsSoundly.either_succ {ts : List Token} (hts : ts ≠ [])
    (h : 4 * ts.length + 4 ≤ n + 1) :
    StopsAs .either [] ts (readEither Pattern.make (n + 1) ts) := by
  intro f hx
  rw [readEither] at hx
  rcases bind_eq_error.mp hx with hx | ⟨⟨first, mid⟩, hfirst, hrest⟩
  · exact .ofBoth (ih.both hts (by omega) hx)
  · obtain ⟨us, rfl, hus⟩ := (readsSoundly n).both ts hfirst
    rw [List.length_append] at h
    exact ih.eitherAfter (.ofBoth hus) mid (by omega) hrest

theorem StopsSoundly.eitherAfter_succ {former : List Token} {left : Query}
    (hl : Derives .either former left) (ts : List Token) (h : 4 * ts.length + 1 ≤ n + 1) :
    StopsAs .either former ts (readEitherAfter Pattern.make (n + 1) left ts) := by
  intro f hx
  cases ts with
  | nil => cases hx
  | cons t ts =>
    rw [readEitherAfter] at hx
    rw [List.length_cons] at h
    split at hx
    · rename_i ht
      rcases bind_eq_error.mp hx with hx | ⟨_, hbegins, hx⟩
      · exact .orMisses hl ht (expectTerm_eq_error.mp hx)
      have hbegins : BeginsTerm ts := expectTerm_eq_ok.mp hbegins
      rcases bind_eq_error.mp hx with hx | ⟨⟨right, mid⟩, hright, hrest⟩
      · exact .or hl ht hbegins (ih.both hbegins.ne_nil (by omega) hx)
      · obtain ⟨us, rfl, hus⟩ := (readsSoundly n).both ts hright
        rw [List.length_append] at h
        simpa using ih.eitherAfter (hl.or ht hus) mid (by omega) hrest
    · cases hx

theorem StopsSoundly.both_succ {ts : List Token} (hts : ts ≠ [])
    (h : 4 * ts.length + 3 ≤ n + 1) :
    StopsAs .both [] ts (readBoth Pattern.make (n + 1) ts) := by
  intro f hx
  rw [readBoth] at hx
  rcases bind_eq_error.mp hx with hx | ⟨⟨first, mid⟩, hfirst, hrest⟩
  · exact .ofNegation (ih.negation hts (by omega) hx)
  · obtain ⟨us, rfl, hus⟩ := (readsSoundly n).negation ts hfirst
    have hpos : 0 < us.length := List.length_pos_iff.mpr hus.ne_nil
    rw [List.length_append] at h
    exact ih.bothAfter (.ofNegation hus) mid (by omega) hrest

theorem StopsSoundly.bothAfter_succ {former : List Token} {left : Query}
    (hl : Derives .both former left) (ts : List Token) (h : 4 * ts.length + 3 ≤ n + 1) :
    StopsAs .both former ts (readBothAfter Pattern.make (n + 1) left ts) := by
  intro f hx
  cases ts with
  | nil => cases hx
  | cons t ts =>
    rw [readBothAfter] at hx
    rw [List.length_cons] at h
    split at hx
    · rename_i ht
      rcases bind_eq_error.mp hx with hx | ⟨_, hbegins, hx⟩
      · exact .andMisses hl ht (expectTerm_eq_error.mp hx)
      have hbegins : BeginsTerm ts := expectTerm_eq_ok.mp hbegins
      rcases bind_eq_error.mp hx with hx | ⟨⟨right, mid⟩, hright, hrest⟩
      · exact .and hl ht hbegins (ih.negation hbegins.ne_nil (by omega) hx)
      · obtain ⟨us, rfl, hus⟩ := (readsSoundly n).negation ts hright
        rw [List.length_append] at h
        simpa using ih.bothAfter (hl.and ht hus) mid (by omega) hrest
    split at hx
    · rename_i hstart
      rcases bind_eq_error.mp hx with hx | ⟨⟨right, mid⟩, hright, hrest⟩
      · have hbound : 4 * (t :: ts).length + 2 ≤ n := by
          rw [List.length_cons]
          omega
        exact .beside hl ⟨t, ts, rfl, hstart⟩ (ih.negation (List.cons_ne_nil t ts) hbound hx)
      · obtain ⟨us, hus, hd⟩ := (readsSoundly n).negation (t :: ts) hright
        have hpos : 0 < us.length := List.length_pos_iff.mpr hd.ne_nil
        have hlen := congrArg List.length hus
        rw [List.length_append, List.length_cons] at hlen
        rw [hus]
        simpa using ih.bothAfter (hl.beside hd) mid (by omega) hrest
    · cases hx

theorem StopsSoundly.negation_succ {ts : List Token} (hts : ts ≠ [])
    (h : 4 * ts.length + 2 ≤ n + 1) :
    StopsAs .negation [] ts (readNegation Pattern.make (n + 1) ts) := by
  intro f hx
  cases ts with
  | nil => exact absurd rfl hts
  | cons t ts =>
    rw [readNegation] at hx
    rw [List.length_cons] at h
    split at hx
    · rename_i ht
      rcases bind_eq_error.mp hx with hx | ⟨_, hbegins, hx⟩
      · exact .notMisses ht (expectTerm_eq_error.mp hx)
      have hbegins : BeginsTerm ts := expectTerm_eq_ok.mp hbegins
      rcases bind_eq_error.mp hx with hx | ⟨⟨operand, mid⟩, -, hx⟩
      · exact .not ht hbegins (ih.negation hbegins.ne_nil (by omega) hx)
      · cases hx
    · rename_i hnot
      exact .ofTerm hnot (ih.term t ts hnot (by omega) hx)

theorem StopsSoundly.term_succ (t : Token) (ts : List Token) (hnot : t.kind ≠ .not)
    (h : 4 * ts.length + 5 ≤ n + 1) :
    StopsAs .term [] (t :: ts) (readTerm Pattern.make (n + 1) t ts) := by
  intro f hx
  unfold readTerm at hx
  split at hx
  · rename_i ht
    split at hx
    · cases hx
      exact .openEnd ht
    rename_i c rest
    split at hx
    · rename_i hc
      cases hx
      exact .emptyGroup ht hc
    rename_i hc
    rcases bind_eq_error.mp hx with hx | ⟨⟨q, mid⟩, hinner, hclose⟩
    · refine .inGroup ht ?_ (ih.either (List.cons_ne_nil c rest) (by omega) hx)
      intro c' he
      cases he
      exact hc
    · -- the query of the group ends at its closing parenthesis or with the tokens
      obtain ⟨us, hus, hd⟩ := (readsSoundly n).either (c :: rest) hinner
      cases mid with
      | nil =>
        cases hclose
        rw [List.append_nil] at hus
        rw [hus]
        exact .openGroup ht hd
      | cons d mid =>
        have hd : d.kind = .closing := readEither_ends hinner d rfl
        cases (closeGroup_eq_ok.mpr ⟨d, hd, rfl, rfl⟩).symm.trans hclose
  · rename_i name op ht
    exact .refuses (readComparison_refuses ht hx)
  · cases hx
  · cases hx
  · cases hx
  · rename_i flags ht
    rcases bind_eq_error.mp hx with hx | ⟨p, -, hx⟩
    · obtain ⟨cause, hcause, rfl⟩ := adapt_eq_error.mp hx
      obtain ⟨r, hr, rfl⟩ := patternOfToken_eq_error.mp hcause
      exact .refuses (.pattern ht hr)
    · cases hx
  · rename_i ht
    cases hx
    exact .refuses (.closing ht)
  · rename_i ht
    cases hx
    exact .refuses (.connective (.inl ht))
  · rename_i ht
    cases hx
    exact .refuses (.connective (.inr ht))
  · exact absurd ‹_› hnot

end Step

theorem stopsSoundly (n : Nat) : StopsSoundly n := by
  induction n with
  | zero => constructor <;> intros <;> omega
  | succ n ih =>
    exact ⟨ih.either_succ, ih.eitherAfter_succ, ih.both_succ, ih.bothAfter_succ, ih.negation_succ,
      ih.term_succ⟩

/-! ## What is derived stops the reader

The parts before the failure are read as they are derived. -/

/-- **The reader stops at tokens with a failure**, at every level with the bounds that reading them
needs. -/
def StopsReader (f : Failure) : Level → List Token → Prop
  | .either, ts => ∀ n, 4 * ts.length ≤ n → (readEither Pattern.make n ts : Reading Id) = .error f
  | .both, ts => ∀ n, 4 * ts.length ≤ n + 1 → (readBoth Pattern.make n ts : Reading Id) = .error f
  | .negation, ts =>
    ∀ n, 4 * ts.length ≤ n + 2 → (readNegation Pattern.make n ts : Reading Id) = .error f
  | .term, ts => ∃ t vs, ts = t :: vs
      ∧ ∀ n, 4 * ts.length ≤ n + 3 → (readTerm Pattern.make n t vs : Reading Id) = .error f

theorem Stops.ne_nil {l : Level} {ts : List Token} {f : Failure} (h : Stops l ts f) : ts ≠ [] := by
  induction h with
  | ofBoth _ ih | ofNegation _ ih => exact ih
  | orMisses | or | andMisses | and => simp
  | beside _ hbegins _ _ => exact List.append_ne_nil_of_right_ne_nil _ hbegins.ne_nil
  | refuses hr => cases hr <;> nofun
  | _ => nofun

section Rules

variable {us ts : List Token} {f : Failure} {t : Token} {p : Query}

/-- A sequence fails as its first part does. -/
theorem bind_of_error {α : Type} {x : ExceptT Failure Id α} (h : x = .error f)
    (g : α → Reading Id) : (x >>= g) = .error f := bind_eq_error.mpr (.inl h)

/-- A loop over `OR` is where an operator for it stands behind what it has read. -/
theorem Derives.readEither_or (hp : Derives .either us p) (ht : t.kind = .or) {n : Nat}
    (hn : 4 * (us ++ t :: ts).length ≤ n) :
    ∃ m, 4 * ts.length + 3 ≤ m ∧ (readEither Pattern.make n (us ++ t :: ts) : Reading Id) = (do
      Query.expectTerm t ts
      let (right, rest) ← readBoth Pattern.make m ts
      readEitherAfter Pattern.make m (.or p right) rest) := by
  obtain ⟨k, hk, hreads⟩ := hp.reads
  have hends : EndsBoth (t :: ts) := by
    intro t' he
    cases he
    rw [ht]
    exact ⟨nofun, rfl⟩
  rw [List.length_append, List.length_cons] at hn
  obtain ⟨m, hm⟩ : ∃ m, n - k = m + 1 := ⟨n - k - 1, by omega⟩
  refine ⟨m, by omega, ?_⟩
  rw [hreads n _ hends (by omega), hm, readEitherAfter, if_pos ht]

/-- A loop over `AND` is where an operator for it stands behind what it has read. -/
theorem Derives.readBoth_and (hp : Derives .both us p) (ht : t.kind = .and) {n : Nat}
    (hn : 4 * (us ++ t :: ts).length ≤ n + 1) :
    ∃ m, 4 * ts.length + 2 ≤ m ∧ (readBoth Pattern.make n (us ++ t :: ts) : Reading Id) = (do
      Query.expectTerm t ts
      let (right, rest) ← readNegation Pattern.make m ts
      readBothAfter Pattern.make m (.and p right) rest) := by
  obtain ⟨k, hk, hreads⟩ := hp.reads
  rw [List.length_append, List.length_cons] at hn
  obtain ⟨m, hm⟩ : ∃ m, n - k = m + 1 := ⟨n - k - 1, by omega⟩
  refine ⟨m, by omega, ?_⟩
  rw [hreads n _ (by omega), hm, readBothAfter, if_pos ht]

/-- A loop over `AND` is where a term stands right behind what it has read. -/
theorem Derives.readBoth_beside (hp : Derives .both us p) (hbegins : BeginsTerm ts) {n : Nat}
    (hn : 4 * (us ++ ts).length ≤ n + 1) :
    ∃ m, 4 * ts.length ≤ m + 2 ∧ (readBoth Pattern.make n (us ++ ts) : Reading Id) = (do
      let (right, rest) ← readNegation Pattern.make m ts
      readBothAfter Pattern.make m (.and p right) rest) := by
  obtain ⟨k, hk, hreads⟩ := hp.reads
  obtain ⟨t, rest, rfl, hstart⟩ := hbegins
  have hand : t.kind ≠ .and := fun e => by rw [e] at hstart; cases hstart
  rw [List.length_append, List.length_cons] at hn
  obtain ⟨m, hm⟩ : ∃ m, n - k = m + 1 := ⟨n - k - 1, by omega⟩
  refine ⟨m, by rw [List.length_cons]; omega, ?_⟩
  rw [hreads n _ (by omega), hm, readBothAfter, if_neg hand, if_pos hstart]

/-- Up to a closing parenthesis or the end a whole query is read. -/
theorem Derives.readEither_eq_ok (hp : Derives .either us p)
    (hends : ∀ c ∈ ts.head?, c.kind = .closing) {n : Nat} (hn : 4 * us.length ≤ n) :
    (readEither Pattern.make n (us ++ ts) : Reading Id) = .ok (p, ts) := by
  obtain ⟨k, hk, hreads⟩ := hp.reads
  have hpos := List.length_pos_iff.mpr hp.ne_nil
  have hboth : EndsBoth ts := fun c hc => by
    rw [hends c hc]
    exact ⟨by simp, rfl⟩
  obtain ⟨m, hm⟩ : ∃ m, n - k = m + 1 := ⟨n - k - 1, by omega⟩
  rw [hreads n _ hboth (by omega), hm]
  exact readEitherAfter_stop m p fun c hc => by simp [hends c hc]

/-- Behind an opening parenthesis a whole query is read, unless a closing one follows. -/
theorem readTerm_opening (ht : t.kind = .opening) (hne : ts ≠ [])
    (hhead : ∀ c ∈ ts.head?, c.kind ≠ .closing) (n : Nat) :
    (readTerm Pattern.make (n + 1) t ts : Reading Id) = (do
      let (q, rest) ← readEither Pattern.make n ts
      closeGroup t q rest) := by
  obtain ⟨c, rest, rfl⟩ := List.exists_cons_of_ne_nil hne
  unfold readTerm
  simp only [ht, if_neg (hhead c rfl)]

end Rules

/-- **Whatever stops derived so stops the reader.** -/
theorem Stops.stopsReader {l : Level} {ts : List Token} {f : Failure} (h : Stops l ts f) :
    StopsReader f l ts := by
  induction h with
  | ofBoth h ih =>
    have hlen := List.length_pos_iff.mpr h.ne_nil
    intro n hn
    obtain ⟨m, rfl⟩ : ∃ m, n = m + 1 := ⟨n - 1, by omega⟩
    rw [readEither]
    exact bind_of_error (ih m (by omega)) _
  | orMisses hp ht hmisses =>
    intro n hn
    obtain ⟨m, -, hread⟩ := hp.readEither_or ht hn
    rw [hread]
    exact bind_of_error (expectTerm_eq_error.mpr hmisses) _
  | or hp ht hbegins _ ih =>
    intro n hn
    obtain ⟨m, hm, hread⟩ := hp.readEither_or ht hn
    rw [hread, bind_of_ok (expectTerm_eq_ok (u := ()) |>.mpr hbegins)]
    exact bind_of_error (ih m (by omega)) _
  | ofNegation h ih =>
    have hlen := List.length_pos_iff.mpr h.ne_nil
    intro n hn
    obtain ⟨m, rfl⟩ : ∃ m, n = m + 1 := ⟨n - 1, by omega⟩
    rw [readBoth]
    exact bind_of_error (ih m (by omega)) _
  | andMisses hp ht hmisses =>
    intro n hn
    obtain ⟨m, -, hread⟩ := hp.readBoth_and ht hn
    rw [hread]
    exact bind_of_error (expectTerm_eq_error.mpr hmisses) _
  | and hp ht hbegins _ ih =>
    intro n hn
    obtain ⟨m, hm, hread⟩ := hp.readBoth_and ht hn
    rw [hread, bind_of_ok (expectTerm_eq_ok (u := ()) |>.mpr hbegins)]
    exact bind_of_error (ih m (by omega)) _
  | beside hp hbegins _ ih =>
    intro n hn
    obtain ⟨m, hm, hread⟩ := hp.readBoth_beside hbegins hn
    rw [hread]
    exact bind_of_error (ih m hm) _
  | ofTerm hnot _ ih =>
    obtain ⟨t', vs, he, ih⟩ := ih
    cases he
    intro n hn
    rw [List.length_cons] at hn
    obtain ⟨m, rfl⟩ : ∃ m, n = m + 1 := ⟨n - 1, by omega⟩
    rw [readNegation, if_neg hnot]
    exact ih m (by rw [List.length_cons]; omega)
  | notMisses ht hmisses =>
    intro n hn
    rw [List.length_cons] at hn
    obtain ⟨m, rfl⟩ : ∃ m, n = m + 1 := ⟨n - 1, by omega⟩
    rw [readNegation, if_pos ht]
    exact bind_of_error (expectTerm_eq_error.mpr hmisses) _
  | not ht hbegins _ ih =>
    intro n hn
    rw [List.length_cons] at hn
    obtain ⟨m, rfl⟩ : ∃ m, n = m + 1 := ⟨n - 1, by omega⟩
    rw [readNegation, if_pos ht, bind_of_ok (expectTerm_eq_ok (u := ()) |>.mpr hbegins)]
    exact bind_of_error (ih m (by omega)) _
  | refuses hr =>
    obtain ⟨t, vs, rfl, -⟩ := hr.readTerm 0
    refine ⟨t, vs, rfl, fun n hn => ?_⟩
    obtain ⟨m, rfl⟩ : ∃ m, n = m + 1 := ⟨n - 1, by simp at hn; omega⟩
    obtain ⟨t', vs', he, h⟩ := hr.readTerm m
    cases he
    exact h
  | @emptyGroup t c ts ht hc =>
    refine ⟨t, c :: ts, rfl, fun n hn => ?_⟩
    obtain ⟨m, rfl⟩ : ∃ m, n = m + 1 := ⟨n - 1, by simp at hn; omega⟩
    unfold readTerm
    simp only [ht, if_pos hc]
    rfl
  | @inGroup t ts f ht hhead h ih =>
    have hpos := List.length_pos_iff.mpr h.ne_nil
    refine ⟨t, ts, rfl, fun n hn => ?_⟩
    rw [List.length_cons] at hn
    obtain ⟨m, rfl⟩ : ∃ m, n = m + 1 := ⟨n - 1, by omega⟩
    rw [readTerm_opening ht h.ne_nil hhead]
    exact bind_of_error (ih m (by omega)) _
  | @openGroup t ts q ht hd =>
    have hbegins : BeginsTerm ts := hd.startsTerm
    refine ⟨t, ts, rfl, fun n hn => ?_⟩
    have hpos := List.length_pos_iff.mpr hd.ne_nil
    rw [List.length_cons] at hn
    obtain ⟨m, rfl⟩ : ∃ m, n = m + 1 := ⟨n - 1, by omega⟩
    have hinner : (readEither Pattern.make m (ts ++ []) : Reading Id) = .ok (q, []) :=
      hd.readEither_eq_ok (by simp) (by omega)
    rw [List.append_nil] at hinner
    rw [readTerm_opening ht hd.ne_nil hbegins.head_ne_closing, bind_of_ok hinner]
    rfl
  | @openEnd t ht =>
    refine ⟨t, [], rfl, fun n hn => ?_⟩
    obtain ⟨m, rfl⟩ : ∃ m, n = m + 1 := ⟨n - 1, by simp at hn; omega⟩
    unfold readTerm
    simp only [ht]
    rfl

/-! ## All tokens -/

/-- **The reader fails exactly as derived.** -/
theorem ofTokens_eq_error_iff {ts : List Token} {f : Failure} :
    ofTokens ts = .error f ↔ Rejects ts f := by
  change (readAll Pattern.make ts : ExceptT Failure Id Query) = .error f ↔ _
  constructor
  · intro h
    rw [readAll] at h
    split at h
    · rename_i hempty
      cases h
      rw [List.isEmpty_iff.mp hempty]
      exact .empty
    rename_i hempty
    have hne : ts ≠ [] := fun e => hempty (List.isEmpty_iff.mpr e)
    rcases bind_eq_error.mp h with h | ⟨⟨q, rest⟩, hread, hrest⟩
    · exact .stops ((stopsSoundly _).either hne (Nat.le_refl _) h)
    · obtain ⟨us, rfl, hd⟩ := (readsSoundly _).either ts hread
      cases rest with
      | nil => cases hrest
      | cons c rest =>
        have hc := readEither_ends hread c rfl
        dsimp only at hrest
        rw [if_pos hc] at hrest
        cases hrest
        exact .stray hd hc
  · intro h
    cases h with
    | empty => rfl
    | stops h =>
      rw [readAll, if_neg fun e => h.ne_nil (List.isEmpty_iff.mp e)]
      exact bind_eq_error.mpr (.inl (h.stopsReader _ (by omega)))
    | @stray us ts c q hd hc =>
      rw [readAll, if_neg (by simp),
        bind_of_ok (hd.readEither_eq_ok (by simpa using hc) (by rw [List.length_append]; omega))]
      dsimp only
      rw [if_pos hc]
      rfl

end Grammar

end CardQuery

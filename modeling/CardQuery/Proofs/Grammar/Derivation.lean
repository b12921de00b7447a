import CardQuery.Query.Grammar

/-!
# Proofs/Grammar/Derivation — the grammar of queries, as derivations

`Derives l ts q` says that the tokens `ts`, all of them and in their order, are a query `q` of the
level `l`.  Nothing is read here: a rule puts token lists side by side, and the left-recursive rules
of the two connectives say that they join to the left.

A derivation begins with a token that may begin a term (`Derives.startsTerm`), so the reader can
tell from one token whether another operand follows.
-/

namespace CardQuery

namespace Grammar

/-- The levels of the grammar, from the loosest binding to the tightest. -/
inductive Level where
  | either | both | negation | term
deriving DecidableEq

/-- The pair that is stored otherwise than it is written: colors of which none is asked for. -/
def AsksNoColor (field : Field) (op : CompareOp) (value : Value) : Prop :=
  field.kind = .color ∧ op = .colon ∧ value = .colors .empty

/-- A comparison up to its value: the token `t` names the field and the operator, the field is
compared by it, and a value token `v` stands right after `t`. -/
structure Asks (t v : Token) (field : Field) (op : CompareOp) : Prop where
  named : ∃ name, t.kind = .comparison name op ∧ Field.ofAlias? name = some field
  admitted : op ∈ field.operators
  isValue : v.kind.isValue
  adjacent : v.start = t.stop

/-- A comparison up to what is stored: the value token gives the field the value. -/
structure Compares (t v : Token) (field : Field) (op : CompareOp) (value : Value) : Prop
    extends Asks t v field op where
  typed : Value.ofToken (m := Id) Pattern.make field op v = .ok value

/-- **The grammar of queries.** -/
inductive Derives : Level → List Token → Query → Prop where
  | ofBoth {ts : List Token} {q : Query} : Derives .both ts q → Derives .either ts q
  | or {ts us : List Token} {t : Token} {p q : Query} :
      Derives .either ts p → t.kind = .or → Derives .both us q →
      Derives .either (ts ++ t :: us) (.or p q)
  | ofNegation {ts : List Token} {q : Query} : Derives .negation ts q → Derives .both ts q
  | and {ts us : List Token} {t : Token} {p q : Query} :
      Derives .both ts p → t.kind = .and → Derives .negation us q →
      Derives .both (ts ++ t :: us) (.and p q)
  | beside {ts us : List Token} {p q : Query} :
      Derives .both ts p → Derives .negation us q → Derives .both (ts ++ us) (.and p q)
  | ofTerm {ts : List Token} {q : Query} : Derives .term ts q → Derives .negation ts q
  | not {ts : List Token} {t : Token} {q : Query} :
      t.kind = .not → Derives .negation ts q → Derives .negation (t :: ts) (.not q)
  | group {ts : List Token} {t c : Token} {q : Query} :
      t.kind = .opening → Derives .either ts q → c.kind = .closing →
      Derives .term (t :: ts ++ [c]) q
  | exactName {t : Token} :
      t.kind = .exactName → Derives .term [t] (.compare .name .eq (.text (.string t.text)))
  | bare {t : Token} :
      t.kind = .word ∨ t.kind = .quoted → Derives .term [t] (.term (.string t.text))
  | pattern {t : Token} {flags : String} {p : Pattern} :
      t.kind = .pattern flags → Pattern.make t.text flags = .ok p → Derives .term [t] (.pattern p)
  | compare {t v : Token} {field : Field} {op : CompareOp} {value : Value} :
      Compares t v field op value → ¬ AsksNoColor field op value →
      Derives .term [t, v] (.compare field op value)
  | colorless {t v : Token} {field : Field} {op : CompareOp} {value : Value} :
      Compares t v field op value → AsksNoColor field op value →
      Derives .term [t, v] (.compare field .eq value)

/-! ## First tokens -/

/-- **A query begins with a token that may begin a term.** -/
theorem Derives.startsTerm {l : Level} {ts : List Token} {q : Query} (h : Derives l ts q) :
    ∃ t rest, ts = t :: rest ∧ t.kind.startsTerm = true := by
  induction h with
  | ofBoth _ ih | ofNegation _ ih | ofTerm _ ih => exact ih
  | or _ _ _ ih _ | and _ _ _ ih _ | beside _ _ ih _ =>
    obtain ⟨t, rest, rfl, ht⟩ := ih
    exact ⟨t, _, rfl, ht⟩
  | not ht _ _ | group ht _ _ _ | exactName ht | pattern ht _ =>
    exact ⟨_, _, rfl, by rw [ht]; rfl⟩
  | bare ht =>
    refine ⟨_, _, rfl, ?_⟩
    rcases ht with ht | ht <;> rw [ht] <;> rfl
  | compare hc _ | colorless hc _ =>
    obtain ⟨name, hk, -⟩ := hc.named
    exact ⟨_, _, rfl, by rw [hk]; rfl⟩

/-- A term is not a dash with something after it. -/
theorem Derives.term_head {ts : List Token} {q : Query} (h : Derives .term ts q) :
    ∃ t rest, ts = t :: rest ∧ t.kind ≠ .not := by
  cases h with
  | group ht _ _ | exactName ht | pattern ht _ => exact ⟨_, _, rfl, by rw [ht]; nofun⟩
  | bare ht =>
    refine ⟨_, _, rfl, ?_⟩
    rcases ht with ht | ht <;> rw [ht] <;> nofun
  | compare hc _ | colorless hc _ =>
    obtain ⟨name, hk, -⟩ := hc.named
    exact ⟨_, _, rfl, by rw [hk]; nofun⟩

/-! ## Comparisons -/

theorem mem_operators_iff {field : Field} {op : CompareOp} :
    op ∈ field.operators ↔ field.kind.admits op = true := by
  rw [Field.operators, List.mem_filter]
  exact ⟨And.right, fun h => ⟨by cases op <;> decide, h⟩⟩

/-- What is stored is what is written, unless no color is asked for. -/
theorem comparing_eq_compare {field : Field} {op : CompareOp} {value : Value}
    (h : ¬ AsksNoColor field op value) :
    Query.comparing field op value = .compare field op value := by
  unfold Query.comparing
  split
  · rename_i set hk
    have hset : set ≠ .empty := fun e => h ⟨hk, rfl, by rw [e]⟩
    rw [if_neg hset]
  · rfl

theorem comparing_eq_exactly {field : Field} {op : CompareOp} {value : Value}
    (h : AsksNoColor field op value) :
    Query.comparing field op value = .compare field .eq value := by
  obtain ⟨hk, rfl, rfl⟩ := h
  simp only [Query.comparing, hk, if_true]

/-- A comparison is a term, stored as the reader stores it. -/
theorem Compares.derives {t v : Token} {field : Field} {op : CompareOp} {value : Value}
    (h : Compares t v field op value) :
    Derives .term [t, v] (Query.comparing field op value) := by
  by_cases hn : AsksNoColor field op value
  · rw [comparing_eq_exactly hn]
    exact .colorless h hn
  · rw [comparing_eq_compare hn]
    exact .compare h hn

end Grammar

end CardQuery

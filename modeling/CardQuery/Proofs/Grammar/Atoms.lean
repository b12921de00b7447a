import CardQuery.Proofs.Grammar.Disjunction
import Mathlib.Data.List.Forall2

/-!
# Proofs/Grammar/Atoms — no term is lost

An atom is what one leaf of a query is made of: a comparison with its value, or any other token that
is no operator and no parenthesis.  `atoms` takes them off a list of tokens without reading it.

* `flatMap_atoms` — the atoms of some tokens hold all of them but operators and parentheses, each
  once and in its order.
* `parse_keeps_atoms` — the leaves of a query are what the atoms of its text make, one of each and
  in their order, and its operators are those of the text.

Atoms of two lists are put together where the first one does not end within a comparison
(`atoms_append`), and no part of a query does, so that the tokens of a part tally with it by
themselves (`Derives.tallies`).
-/

namespace CardQuery

namespace Query

/-- The comparisons, terms and patterns of a query, from left to right. -/
def leaves : Query → List Query
  | and left right | or left right => left.leaves ++ right.leaves
  | not operand => operand.leaves
  | q => [q]

/-- How many conjunctions a query consists of. -/
def andCount : Query → Nat
  | and left right => left.andCount + right.andCount + 1
  | or left right => left.andCount + right.andCount
  | not operand => operand.andCount
  | _ => 0

/-- How many negations a query consists of. -/
def notCount : Query → Nat
  | and left right | or left right => left.notCount + right.notCount
  | not operand => operand.notCount + 1
  | _ => 0

/-- **A connective joins two operands**, so there is one less than there are leaves. -/
theorem andCount_add_orCount (q : Query) : q.andCount + q.orCount + 1 = q.leaves.length := by
  induction q with
  | and left right ihl ihr | or left right ihl ihr =>
    rw [leaves, List.length_append, ← ihl, ← ihr, andCount, orCount]
    omega
  | not operand ih => exact ih
  | _ => rfl

end Query

namespace Grammar

open Query

/-! ## Atoms -/

/-- Whether a token of a kind is an operator or a parenthesis. -/
def isJoint : TokenKind → Bool
  | .opening | .closing | .and | .or | .not => true
  | _ => false

/-- What a leaf of a query is made of. -/
inductive Atom where
  /-- A token on its own. -/
  | single (t : Token)
  /-- A comparison with its value. -/
  | comparison (t v : Token)
deriving DecidableEq, Repr

/-- The tokens of an atom. -/
def Atom.tokens : Atom → List Token
  | single t => [t]
  | comparison t v => [t, v]

/-- **The atoms of some tokens**: each comparison together with the value right behind it, and each
other token that is no operator and no parenthesis. -/
def atoms : List Token → List Atom
  | [] => []
  | [t] => if isJoint t.kind then [] else [.single t]
  | t :: v :: rest =>
    if isJoint t.kind then atoms (v :: rest)
    else if t.kind.takesValue && v.kind.isValue && v.follows t then .comparison t v :: atoms rest
    else .single t :: atoms (v :: rest)

/-- **The leaf that an atom makes.** -/
inductive Atom.Makes : Atom → Query → Prop where
  | exactName {t : Token} :
      t.kind = .exactName → Makes (.single t) (.compare .name .eq (.text (.string t.text)))
  | bare {t : Token} :
      t.kind = .word ∨ t.kind = .quoted → Makes (.single t) (.term (.string t.text))
  | pattern {t : Token} {flags : String} {p : Pattern} :
      t.kind = .pattern flags → Pattern.make t.text flags = .ok p → Makes (.single t) (.pattern p)
  | compare {t v : Token} {field : Field} {op : CompareOp} {value : Value} :
      Compares t v field op value → Makes (.comparison t v) (comparing field op value)

theorem isJoint_of_isValue {k : TokenKind} (h : k.isValue = true) : isJoint k = false := by
  cases k with
  | word | quoted | pattern => rfl
  | _ => cases h

/-- **The atoms of some tokens are all of them but operators and parentheses**, in their order. -/
theorem flatMap_atoms (ts : List Token) :
    (atoms ts).flatMap Atom.tokens = ts.filter fun t => !isJoint t.kind := by
  fun_induction atoms ts with
  | case1 => rfl
  | case2 t ht => simp [ht]
  | case3 t ht => simp [ht, Atom.tokens]
  | case4 t v rest ht ih => simp [ht, ih]
  | case5 t v rest ht hv ih =>
    obtain ⟨hv, -⟩ := Bool.and_eq_true_iff.mp hv
    have hvalue := isJoint_of_isValue (Bool.and_eq_true_iff.mp hv).2
    simp [ht, hvalue, ih, Atom.tokens]
  | case6 t v rest ht _ ih =>
    have hrest : (t :: v :: rest).filter (fun t => !isJoint t.kind)
        = t :: (v :: rest).filter fun t => !isJoint t.kind :=
      List.filter_cons_of_pos (by simpa using ht)
    rw [List.flatMap_cons, ih, hrest]
    rfl

theorem atoms_cons_joint {t : Token} (ht : isJoint t.kind = true) (ts : List Token) :
    atoms (t :: ts) = atoms ts := by
  cases ts with
  | nil => simp [atoms, ht]
  | cons v rest => simp [atoms, ht]

/-- A token that takes no value is an atom whatever follows. -/
theorem atoms_cons_single {t : Token} (ht : isJoint t.kind = false)
    (hvalue : t.kind.takesValue = false) (ts : List Token) :
    atoms (t :: ts) = .single t :: atoms ts := by
  cases ts with
  | nil => simp [atoms, ht]
  | cons v rest => simp [atoms, ht, hvalue]

/-- No comparison lacks its value at the end of some tokens. -/
def EndsWhole (ts : List Token) : Prop := ∀ t ∈ ts.getLast?, t.kind.takesValue = false

theorem EndsWhole.tail {t : Token} {ts : List Token} (h : EndsWhole (t :: ts)) : EndsWhole ts := by
  intro s hs
  refine h s ?_
  rw [List.getLast?_cons, Option.mem_def.mp hs]
  rfl

/-- **Atoms are put together** where no comparison is cut in two. -/
theorem atoms_append {ts : List Token} (h : EndsWhole ts) (us : List Token) :
    atoms (ts ++ us) = atoms ts ++ atoms us := by
  fun_induction atoms ts with
  | case1 => rfl
  | case2 t ht => exact atoms_cons_joint ht us
  | case3 t ht => exact atoms_cons_single (by simpa using ht) (h t rfl) us
  | case4 t v rest ht ih =>
    rw [List.cons_append, atoms_cons_joint ht]
    exact ih h.tail
  | case5 t v rest ht hv ih =>
    rw [List.cons_append, List.cons_append, atoms, if_neg ht, if_pos hv, ih h.tail.tail]
    rfl
  | case6 t v rest ht hv ih =>
    have hwhole := ih h.tail
    rw [List.cons_append] at hwhole
    rw [List.cons_append, List.cons_append, atoms, if_neg ht, if_neg hv, hwhole]
    rfl

/-! ## What is derived -/

theorem endsWhole_singleton {t : Token} (h : t.kind.takesValue = false) : EndsWhole [t] := by
  intro s hs
  cases hs
  exact h

theorem EndsWhole.behind {us : List Token} (h : EndsWhole us) (hne : us ≠ []) (ts : List Token) :
    EndsWhole (ts ++ us) := by
  intro t ht
  rw [List.getLast?_append_of_ne_nil ts hne] at ht
  exact h t ht

/-- **Tokens tally with a query**: they do not end within a comparison, their atoms make its leaves,
and it has as many disjunctions and negations as they have operators for them. -/
structure Tallies (ts : List Token) (q : Query) : Prop where
  whole : EndsWhole ts
  leaves : List.Forall₂ Atom.Makes (atoms ts) q.leaves
  ors : q.orCount = ts.countP (·.kind = .or)
  nots : q.notCount = ts.countP (·.kind = .not)

theorem Atom.Makes.isLeaf {a : Atom} {q : Query} (h : a.Makes q) : q.isLeaf = true := by
  cases h with
  | compare =>
    unfold comparing
    split <;> rfl
  | _ => rfl

/-- A token that is an operand or a value of one is no operator. -/
theorem Atom.Makes.tokens_plain {a : Atom} {q : Query} (h : a.Makes q) :
    (∀ t ∈ a.tokens, isJoint t.kind = false) ∧ EndsWhole a.tokens ∧ atoms a.tokens = [a] := by
  have hsingle {t : Token} (hj : isJoint t.kind = false) (hv : t.kind.takesValue = false) :
      (∀ s ∈ [t], isJoint s.kind = false) ∧ EndsWhole [t] ∧ atoms [t] = [.single t] :=
    ⟨by simpa using hj, endsWhole_singleton hv, atoms_cons_single hj hv []⟩
  cases h with
  | exactName ht | pattern ht _ => exact hsingle (by rw [ht]; rfl) (by rw [ht]; rfl)
  | bare ht => rcases ht with ht | ht <;> exact hsingle (by rw [ht]; rfl) (by rw [ht]; rfl)
  | @compare t v field op value hc =>
    obtain ⟨name, ht, -⟩ := hc.named
    have hjoint : isJoint t.kind = false := by rw [ht]; rfl
    have htakes : t.kind.takesValue = true := by rw [ht]; rfl
    have hvalue : v.kind.takesValue = false := by
      have hv := hc.isValue
      cases hk : v.kind with
      | comparison =>
        rw [hk] at hv
        cases hv
      | _ => rfl
    refine ⟨by simp [tokens, hjoint, isJoint_of_isValue hc.isValue],
      (endsWhole_singleton hvalue).behind (by simp) [t], ?_⟩
    simp [tokens, atoms, hjoint, htakes, hc.isValue, Token.follows, hc.adjacent]

/-- **An atom tallies with its leaf.** -/
theorem Atom.Makes.tallies {a : Atom} {q : Query} (h : a.Makes q) : Tallies a.tokens q := by
  obtain ⟨hplain, hwhole, hatoms⟩ := h.tokens_plain
  have hleaf := h.isLeaf
  have hleaves : q.leaves = [q] ∧ q.orCount = 0 ∧ q.notCount = 0 := by
    cases q with
    | compare | term | pattern => exact ⟨rfl, rfl, rfl⟩
    | _ => cases hleaf
  have hnone {k : TokenKind} (hk : isJoint k = true) : a.tokens.countP (·.kind = k) = 0 := by
    refine List.countP_eq_zero.mpr fun t ht hkind => ?_
    have hjoint := hplain t ht
    rw [of_decide_eq_true hkind, hk] at hjoint
    cases hjoint
  obtain ⟨hleaves, hors, hnots⟩ := hleaves
  refine ⟨hwhole, ?_, by rw [hors, hnone rfl], by rw [hnots, hnone rfl]⟩
  rw [hatoms, hleaves]
  exact .cons h .nil

variable {l : Level} {ts us : List Token} {p q : Query}

theorem atoms_joints_append {js : List Token} (hjs : ∀ t ∈ js, isJoint t.kind = true)
    (us : List Token) : atoms (js ++ us) = atoms us := by
  induction js with
  | nil => rfl
  | cons t js ih =>
    rw [List.cons_append, atoms_cons_joint (hjs t List.mem_cons_self)]
    exact ih fun s hs => hjs s (List.mem_cons_of_mem t hs)

/-- **Parts that tally are joined to a query that does**, with operators between them or none. -/
theorem Tallies.join {r : Query} (hp : Tallies ts p) (hq : Tallies us q) (hne : us ≠ [])
    {js : List Token} (hjs : ∀ t ∈ js, isJoint t.kind = true)
    (hleaves : r.leaves = p.leaves ++ q.leaves)
    (hors : r.orCount = p.orCount + js.countP (·.kind = .or) + q.orCount)
    (hnots : r.notCount = p.notCount + js.countP (·.kind = .not) + q.notCount) :
    Tallies (ts ++ (js ++ us)) r := by
  refine ⟨(hq.whole.behind hne js).behind (by simp [hne]) ts, ?_, ?_, ?_⟩
  · rw [atoms_append hp.whole, atoms_joints_append hjs, hleaves]
    exact List.rel_append hp.leaves hq.leaves
  · rw [hors, hp.ors, hq.ors, List.countP_append, List.countP_append, Nat.add_assoc]
  · rw [hnots, hp.nots, hq.nots, List.countP_append, List.countP_append, Nat.add_assoc]

/-- **The tokens of a part of a query tally with it.** -/
theorem Derives.tallies (h : Derives l ts q) : Tallies ts q := by
  induction h with
  | ofBoth _ ih | ofNegation _ ih | ofTerm _ ih => exact ih
  | @or ts us t p q _ ht hd ihp ihq =>
    have hjoint : ∀ s ∈ [t], isJoint s.kind = true := by simp [ht, isJoint]
    exact ihp.join ihq hd.ne_nil hjoint rfl (by simp [orCount, ht]; omega) (by simp [notCount, ht])
  | @and ts us t p q _ ht hd ihp ihq =>
    have hjoint : ∀ s ∈ [t], isJoint s.kind = true := by simp [ht, isJoint]
    exact ihp.join ihq hd.ne_nil hjoint rfl (by simp [orCount, ht]) (by simp [notCount, ht])
  | beside _ hd ihp ihq =>
    have hjoint : ∀ s ∈ ([] : List Token), isJoint s.kind = true := by simp
    exact ihp.join ihq hd.ne_nil hjoint rfl (by simp [orCount]) (by simp [notCount])
  | @not ts t q ht hd ih =>
    have hjoint : isJoint t.kind = true := by rw [ht]; rfl
    refine ⟨ih.whole.behind hd.ne_nil [t], ?_, ?_, ?_⟩
    · rw [atoms_cons_joint hjoint]
      exact ih.leaves
    · simp [orCount, ih.ors, ht]
    · simp [notCount, ih.nots, ht]
  | @group ts t c q ht hd hc ih =>
    have hopen : isJoint t.kind = true := by rw [ht]; rfl
    have hclose : isJoint c.kind = true := by rw [hc]; rfl
    refine ⟨(endsWhole_singleton (by rw [hc]; rfl)).behind (by simp) _, ?_, ?_, ?_⟩
    · rw [List.cons_append, atoms_cons_joint hopen, atoms_append ih.whole,
        atoms_cons_joint hclose, atoms, List.append_nil]
      exact ih.leaves
    · simp [ih.ors, ht, hc]
    · simp [ih.nots, ht, hc]
  | exactName ht => exact (Atom.Makes.exactName ht).tallies
  | bare ht => exact (Atom.Makes.bare ht).tallies
  | pattern ht hp => exact (Atom.Makes.pattern ht hp).tallies
  | compare hc hn => exact comparing_eq_compare hn ▸ (Atom.Makes.compare hc).tallies
  | colorless hc hn => exact comparing_eq_exactly hn ▸ (Atom.Makes.compare hc).tallies

end Grammar

namespace Query

open Grammar

/-- **No term of a text is lost, doubled or moved.**  The tokens of a query stand in its order, and
its atoms are all of them but operators and parentheses.  The leaves of the query are one for each
atom, made of it and in the order of the atoms.  It has a disjunction for each `OR`, a negation for
each dash, and with the disjunctions as many conjunctions as join its leaves. -/
theorem parse_keeps_atoms {text : String} {q : Query} (h : parse text = .ok q) :
    ∃ ts, tokenize text = .ok ts
      ∧ ts.Pairwise (fun a b => a.stop ≤ b.start)
      ∧ (atoms ts).flatMap Atom.tokens = ts.filter (fun t => !isJoint t.kind)
      ∧ List.Forall₂ Atom.Makes (atoms ts) q.leaves
      ∧ q.orCount = ts.countP (·.kind = .or)
      ∧ q.notCount = ts.countP (·.kind = .not)
      ∧ q.andCount + q.orCount + 1 = q.leaves.length := by
  obtain ⟨ts, htokens, hcuts, hd⟩ := exists_tokens_of_parse h
  have htally := hd.tallies
  exact ⟨ts, htokens, hcuts.ordered, flatMap_atoms ts, htally.leaves, htally.ors, htally.nots,
    q.andCount_add_orCount⟩

/-- Comparisons whose values look like a dash and like an operator, negations within one another,
and operands joined by each of the three operators. -/
theorem mixedOperators_keeps_atoms :
    let text := "-(-a or pow>-1 t:or) AND ! \"x\" /y/i"
    ∃ q ts, parse text = .ok q ∧ tokenize text = .ok ts ∧ (atoms ts).length = 5
      ∧ List.Forall₂ Atom.Makes (atoms ts) q.leaves
      ∧ q.orCount = 1 ∧ q.notCount = 2 ∧ q.andCount = 3 := by
  intro text
  obtain ⟨q, hq⟩ := exists_of_toBool text (by decide +kernel)
  obtain ⟨ts, htokens, -, -, hleaves, hors, hnots, hands⟩ := parse_keeps_atoms hq
  have hcount : (tokenize text).toOption.map (fun ts =>
      ((atoms ts).length, ts.countP (·.kind = .or), ts.countP (·.kind = .not)))
        = some (5, 1, 2) := by decide +kernel
  rw [htokens] at hcount
  simp only [Except.toOption, Option.map_some, Option.some.injEq, Prod.mk.injEq] at hcount
  obtain ⟨hatoms, hor, hnot⟩ := hcount
  rw [hor] at hors
  rw [hnot] at hnots
  have hlength := hleaves.length_eq
  exact ⟨q, ts, hq, htokens, hatoms, hleaves, hors, hnots, by omega⟩

end Query

end CardQuery

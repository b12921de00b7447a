import CardQuery.Match
import CardQuery.Query.Explanation

/-!
# Proofs/Explanation/Outline — queries without the bracketing of their chains

A chain of one connective can be bracketed in many ways.  `Query.operands` are the queries that a
chain joins, in their order, and `Query.outline` is a query with its chains flattened and with its
comparisons in words.

* `Query.chainInduction` — induction on a query with the operands of its chains.
* `Query.toList_explain_of_joined` — a chain is explained operand by operand.
* `Query.matches_of_joined` — a chain is decided operand by operand.
-/

namespace CardQuery

/-- A connective that joins queries to chains. -/
inductive Connective where
  | and | or
deriving DecidableEq

namespace Connective

/-- Two queries joined. -/
def join : Connective → Query → Query → Query
  | and => .and
  | or => .or

/-- A connective between explanations. -/
def inWords : Connective → List Char
  | and => [' ', 'a', 'n', 'd', ' ']
  | or => [' ', 'o', 'r', ' ']

/-- The result of an operand after which a chain is not settled yet. -/
def goesOn : Connective → Bool
  | and => true
  | or => false

end Connective

namespace Query

/-- The outermost connective. -/
def connective? : Query → Option Connective
  | and .. => some .and
  | or .. => some .or
  | _ => none

/-- Whether a query neither joins nor negates others. -/
def isLeaf : Query → Bool
  | compare .. | term _ | pattern _ => true
  | _ => false

/-- **The queries that a chain joins**, however it is bracketed; what is no chain of the connective
stands alone. -/
def operands (k : Connective) : Query → List Query
  | and left right => if k = .and then left.operands k ++ right.operands k else [and left right]
  | or left right => if k = .or then left.operands k ++ right.operands k else [or left right]
  | q => [q]

end Query

/-- The structure of a query with its chains flattened. -/
inductive Outline where
  /-- What neither joins nor negates, in words. -/
  | leaf (words : String)
  | not (operand : Outline)
  | chain (k : Connective) (operands : List Outline)

/-- The outlines that a chain joins. -/
def Outline.operands (k : Connective) : Outline → List Outline
  | chain k' os => if k = k' then os else [chain k' os]
  | o => [o]

/-- **The outline of a query.** -/
def Query.outline : Query → Outline
  | and left right => .chain .and (left.outline.operands .and ++ right.outline.operands .and)
  | or left right => .chain .or (left.outline.operands .or ++ right.outline.operands .or)
  | not operand => .not operand.outline
  | q => .leaf q.explain

/-! ## Lists -/

/-- What lists have in common item by item carries over to what is determined by it. -/
theorem map_congr_of_map_eq {α β γ : Type} {f : α → β} {g : α → γ} {xs ys : List α}
    (h : xs.map f = ys.map f) (hg : ∀ x ∈ xs, ∀ y ∈ ys, f x = f y → g x = g y) :
    xs.map g = ys.map g := by
  induction xs generalizing ys with
  | nil =>
    obtain rfl : ys = [] := List.map_eq_nil_iff.mp h.symm
    rfl
  | cons x xs ih =>
    rcases ys with _ | ⟨y, ys⟩
    · cases h
    · obtain ⟨hxy, htail⟩ := List.cons.inj h
      rw [List.map_cons, List.map_cons, hg x (by simp) y (by simp) hxy,
        ih htail fun x hx y hy => hg x (by simp [hx]) y (by simp [hy])]

/-- Two parts with separators, put together with one more. -/
theorem intercalate_append {α : Type} (sep : List α) {xs ys : List (List α)} (hx : xs ≠ [])
    (hy : ys ≠ []) :
    sep.intercalate (xs ++ ys) = sep.intercalate xs ++ sep ++ sep.intercalate ys := by
  induction xs with
  | nil => exact absurd rfl hx
  | cons x xs ih =>
    rcases xs with _ | ⟨x', xs⟩
    · rcases ys with _ | ⟨y, ys⟩
      · exact absurd rfl hy
      · simp [List.intercalate_cons_cons]
    · simp only [List.cons_append, List.intercalate_cons_cons] at ih ⊢
      rw [ih (by simp)]
      simp

namespace Query

/-! ## Chains -/

section Chains

variable {k : Connective} {p q : Query}

theorem connective?_join (k : Connective) (p q : Query) : (k.join p q).connective? = some k := by
  cases k
  · rfl
  · rfl

/-- A query with a connective is joined of two others. -/
theorem exists_join (h : q.connective? = some k) : ∃ l r, q = k.join l r := by
  cases q with
  | and l r | or l r =>
    cases h
    exact ⟨l, r, rfl⟩
  | _ => cases h

theorem operands_join (k k' : Connective) (p q : Query) :
    (k'.join p q).operands k
      = if k = k' then p.operands k ++ q.operands k else [k'.join p q] := by
  cases k'
  · rfl
  · rfl

/-- What is no chain of a connective stands alone. -/
theorem operands_of_ne (h : q.connective? ≠ some k) : q.operands k = [q] := by
  cases q with
  | and | or => exact if_neg fun hk => h (congrArg some hk.symm)
  | _ => rfl

/-- Induction on a query with one case for both connectives. -/
theorem joinInduction {motive : Query → Prop} (leaf : ∀ q, q.isLeaf = true → motive q)
    (not : ∀ q, motive q → motive (.not q))
    (join : ∀ (k : Connective) (p q : Query), motive p → motive q → motive (k.join p q))
    (q : Query) : motive q := by
  induction q with
  | and p q ihp ihq => exact join .and p q ihp ihq
  | or p q ihp ihq => exact join .or p q ihp ihq
  | not q ih => exact not q ih
  | _ => exact leaf _ rfl

theorem connective?_of_isLeaf (h : q.isLeaf = true) : q.connective? = none := by
  cases q with
  | and | or | not => cases h
  | _ => rfl

theorem operands_of_isLeaf (h : q.isLeaf = true) : q.operands k = [q] :=
  operands_of_ne (by simp [connective?_of_isLeaf h])

/-- **Induction on a query with the operands of its chains.** -/
theorem chainInduction {motive : Query → Prop} (leaf : ∀ q, q.isLeaf = true → motive q)
    (not : ∀ q, motive q → motive (.not q))
    (chain : ∀ k q, q.connective? = some k → (∀ x ∈ q.operands k, motive x) → motive q)
    (q : Query) : motive q := by
  suffices h : motive q ∧ ∀ k, ∀ x ∈ q.operands k, motive x from h.1
  induction q using joinInduction with
  | leaf q hq =>
    refine ⟨leaf q hq, fun k => ?_⟩
    rw [operands_of_isLeaf hq]
    exact List.forall_mem_singleton.mpr (leaf q hq)
  | not q ih =>
    exact ⟨not q ih.1, fun k => List.forall_mem_singleton.mpr (not q ih.1)⟩
  | join k p q ihp ihq =>
    have hall : ∀ x ∈ (k.join p q).operands k, motive x := by
      rw [operands_join, if_pos rfl]
      exact List.forall_mem_append.mpr ⟨ihp.2 k, ihq.2 k⟩
    have hjoin : motive (k.join p q) := chain k _ (connective?_join k p q) hall
    refine ⟨hjoin, fun k' => ?_⟩
    rw [operands_join]
    split
    · exact List.forall_mem_append.mpr ⟨ihp.2 k', ihq.2 k'⟩
    · exact List.forall_mem_singleton.mpr hjoin

/-- A property of queries that goes over to the operands of any joined query holds of all operands of
a chain. -/
theorem forall_operands {P : Query → Prop} (hP : ∀ (k : Connective) (p q : Query),
    P (k.join p q) → P p ∧ P q) (k : Connective) (h : P q) : ∀ x ∈ q.operands k, P x := by
  induction q using joinInduction with
  | leaf q hq =>
    rw [operands_of_isLeaf hq]
    exact List.forall_mem_singleton.mpr h
  | not q _ => exact List.forall_mem_singleton.mpr h
  | join k' p q ihp ihq =>
    rw [operands_join]
    split
    · exact List.forall_mem_append.mpr ⟨ihp (hP _ _ _ h).1, ihq (hP _ _ _ h).2⟩
    · exact List.forall_mem_singleton.mpr h

theorem operands_ne_nil (k : Connective) (q : Query) : q.operands k ≠ [] := by
  induction q using joinInduction with
  | leaf q hq => simp [operands_of_isLeaf hq]
  | not q _ => exact List.cons_ne_nil _ _
  | join k' p q ihp _ =>
    rw [operands_join]
    split
    · simp [ihp]
    · simp

/-- **The outline of a query joined of two** joins the outlines that they join. -/
theorem outline_join (k : Connective) (p q : Query) :
    (k.join p q).outline = .chain k (p.outline.operands k ++ q.outline.operands k) := by
  cases k
  · rfl
  · rfl

theorem outline_of_isLeaf (h : q.isLeaf = true) : q.outline = .leaf q.explain := by
  cases q with
  | and | or | not => cases h
  | _ => rfl

theorem outline_operands (k : Connective) (q : Query) :
    q.outline.operands k = (q.operands k).map outline := by
  induction q using joinInduction with
  | leaf q hq =>
    rw [operands_of_isLeaf hq, outline_of_isLeaf hq, List.map_singleton, outline_of_isLeaf hq]
    rfl
  | not q _ => rfl
  | join k' p q ihp ihq =>
    rw [operands_join, outline_join, Outline.operands]
    split
    · rename_i hk
      subst hk
      rw [ihp, ihq, List.map_append]
    · rw [List.map_singleton, outline_join]

/-- **The outline of a chain joins the outlines of its operands.** -/
theorem outline_of_joined (h : q.connective? = some k) :
    q.outline = .chain k ((q.operands k).map outline) := by
  obtain ⟨l, r, rfl⟩ := exists_join h
  rw [outline_join, operands_join, if_pos rfl, List.map_append, outline_operands, outline_operands]

end Chains

/-! ## Explanations -/

section Explanations

/-- A query as an operand of a chain: another chain stands in parentheses. -/
def operandText (q : Query) : List Char :=
  if q.connective?.isSome then '(' :: q.explain.toList ++ [')'] else q.explain.toList

/-- A query as a part of a chain: a chain of the same connective goes on. -/
def chainText (k : Connective) (q : Query) : List Char :=
  if q.connective? = some k then q.explain.toList else q.operandText

theorem chainText_of_ne {k : Connective} {q : Query} (h : q.connective? ≠ some k) :
    q.chainText k = q.operandText := if_neg h

/-- Two queries joined are explained one after the other. -/
theorem toList_explain_join (k : Connective) (p q : Query) :
    (k.join p q).explain.toList = p.chainText k ++ k.inWords ++ q.chainText k := by
  have hand (q : Query) : (parenthesized q.isOr q.explain).toList = q.chainText .and := by
    cases q <;> simp [parenthesized, isOr, chainText, operandText, connective?]
  have hor (q : Query) : (parenthesized q.isAnd q.explain).toList = q.chainText .or := by
    cases q <;> simp [parenthesized, isAnd, chainText, operandText, connective?]
  cases k with
  | and =>
    have hwords : " and ".toList = Connective.and.inWords := rfl
    rw [← hwords, ← hand, ← hand, ← String.toList_append, ← String.toList_append]
    rfl
  | or =>
    have hwords : " or ".toList = Connective.or.inWords := rfl
    rw [← hwords, ← hor, ← hor, ← String.toList_append, ← String.toList_append]
    rfl

theorem chainText_eq (k : Connective) (q : Query) :
    q.chainText k = k.inWords.intercalate ((q.operands k).map operandText) := by
  induction q using joinInduction with
  | leaf q hq =>
    rw [operands_of_isLeaf hq, chainText_of_ne (by simp [connective?_of_isLeaf hq])]
    simp
  | not q _ => exact (List.intercalate_singleton).symm
  | join k' p q ihp ihq =>
    rw [operands_join]
    split
    · rename_i hk
      subst hk
      rw [chainText, if_pos (connective?_join k p q), toList_explain_join, ihp, ihq,
        List.map_append, intercalate_append]
      · simpa using operands_ne_nil k p
      · simpa using operands_ne_nil k q
    · rename_i hk
      rw [chainText_of_ne (by simpa [connective?_join] using Ne.symm hk)]
      simp

/-- **A chain is explained operand by operand.** -/
theorem toList_explain_of_joined {k : Connective} {q : Query} (h : q.connective? = some k) :
    q.explain.toList = k.inWords.intercalate ((q.operands k).map operandText) := by
  rw [← chainText_eq, chainText, if_pos h]

end Explanations

/-! ## Evaluation -/

section Evaluation

/-- Results one after the other, until one of them settles a chain. -/
def settle (k : Connective) : List (Except Fault Bool) → Except Fault Bool
  | [] => .ok k.goesOn
  | x :: rest => do if (← x) = k.goesOn then settle k rest else return !k.goesOn

theorem settle_singleton (k : Connective) (x : Except Fault Bool) : settle k [x] = x := by
  rcases x with _ | b
  · rfl
  · cases k <;> cases b <;> rfl

theorem settle_append (k : Connective) (xs ys : List (Except Fault Bool)) :
    settle k (xs ++ ys)
      = do if (← settle k xs) = k.goesOn then settle k ys else return !k.goesOn := by
  induction xs with
  | nil => cases k <;> rfl
  | cons x xs ih =>
    rw [List.cons_append, settle, ih, settle]
    rcases x with _ | b
    · rfl
    · cases k <;> cases b <;> rfl

theorem matches_join (k : Connective) (p q : Query) (c : Card) :
    (k.join p q).matches c
      = do if (← p.matches c) = k.goesOn then q.matches c else return !k.goesOn := by
  cases k with
  | and =>
    change (do if ← p.matches c then q.matches c else return false) = _
    rcases p.matches c with _ | b
    · rfl
    · cases b <;> rfl
  | or =>
    change (do if ← p.matches c then return true else q.matches c) = _
    rcases p.matches c with _ | b
    · rfl
    · cases b <;> rfl

/-- **A chain is decided operand by operand.** -/
theorem matches_eq_settle (k : Connective) (q : Query) (c : Card) :
    q.matches c = settle k ((q.operands k).map (·.matches c)) := by
  induction q using joinInduction with
  | leaf q hq => rw [operands_of_isLeaf hq, List.map_singleton, settle_singleton]
  | not q _ => exact (settle_singleton _ _).symm
  | join k' p q ihp ihq =>
    rw [operands_join]
    split
    · rename_i hk
      subst hk
      rw [matches_join, ihp, ihq, List.map_append, settle_append]
    · rw [List.map_singleton, settle_singleton]

end Evaluation

end Query

end CardQuery

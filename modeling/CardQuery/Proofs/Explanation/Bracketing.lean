import CardQuery.Proofs.Explanation.Outline
import Mathlib.Data.List.Forall2

/-!
# Proofs/Explanation/Bracketing — how chains are bracketed cannot be seen

A chain of one connective is explained and decided operand by operand, so its bracketing shows
neither in the explanation nor in the result: not in a verdict, and not in the fault that the first
failing operand comes to.

* `Query.Rebracketed` — two queries that differ in the bracketing of their chains, at any depth.
* `Query.bracketing_invisible` — they are explained alike and decided alike.
-/

namespace CardQuery

/-- Lists that are related item by item agree on what related items agree on. -/
theorem map_eq_map_of_forall₂ {α β : Type} {R : α → α → Prop} {f : α → β} {xs ys : List α}
    (h : List.Forall₂ R xs ys) (hf : ∀ x ∈ xs, ∀ y, R x y → f x = f y) : xs.map f = ys.map f := by
  induction h with
  | nil => rfl
  | cons hxy _ ih =>
    rw [List.map_cons, List.map_cons, hf _ List.mem_cons_self _ hxy,
      ih fun x hx => hf x (List.mem_cons_of_mem _ hx)]

namespace Query

/-- **Two queries that differ only in how their chains are bracketed.**  The chains join the same
operands in the same order, or operands that differ in their own chains. -/
inductive Rebracketed : Query → Query → Prop
  | refl (q : Query) : Rebracketed q q
  | not {p q : Query} (h : Rebracketed p q) : Rebracketed (.not p) (.not q)
  | chain {k : Connective} {p q : Query} (hp : p.connective? = some k)
    (hq : q.connective? = some k)
    (h : List.Forall₂ Rebracketed (p.operands k) (q.operands k)) : Rebracketed p q

namespace Rebracketed

variable {p q : Query}

/-- A chain of three is bracketed to the left or to the right. -/
theorem assoc (k : Connective) (p q r : Query) :
    Rebracketed (k.join (k.join p q) r) (k.join p (k.join q r)) := by
  refine .chain (connective?_join ..) (connective?_join ..) ?_
  simp only [operands_join, if_true, List.append_assoc]
  exact List.forall₂_same.mpr fun x _ => .refl x

theorem connective?_eq (h : Rebracketed p q) : p.connective? = q.connective? := by
  cases h with
  | refl => rfl
  | not => rfl
  | chain hp hq => rw [hp, hq]

theorem eq_of_isLeaf (h : Rebracketed p q) (hp : p.isLeaf = true) : p = q := by
  cases h with
  | refl => rfl
  | not => cases hp
  | chain hk =>
    rw [connective?_of_isLeaf hp] at hk
    cases hk

theorem exists_not (h : Rebracketed (.not p) q) : ∃ x, q = .not x ∧ Rebracketed p x := by
  cases h with
  | refl => exact ⟨p, rfl, .refl p⟩
  | not h => exact ⟨_, rfl, h⟩
  | chain hk => cases hk

/-- The operands of a chain are rebracketed one by one. -/
theorem operands {k : Connective} (h : Rebracketed p q) (hk : p.connective? = some k) :
    List.Forall₂ Rebracketed (p.operands k) (q.operands k) := by
  cases h with
  | refl => exact List.forall₂_same.mpr fun x _ => .refl x
  | not => cases hk
  | chain hp _ h =>
    obtain rfl : _ = k := Option.some.inj (hp.symm.trans hk)
    exact h

theorem operandText_eq (h : Rebracketed p q) (hexplain : p.explain = q.explain) :
    p.operandText = q.operandText := by
  rw [operandText, operandText, h.connective?_eq, hexplain]

/-- A chain is explained like a rebracketed one if its operands are. -/
theorem explain_chain {k : Connective} (h : Rebracketed p q) (hk : p.connective? = some k)
    (ih : ∀ x ∈ p.operands k, ∀ y, Rebracketed x y → x.explain = y.explain) :
    p.explain = q.explain := by
  have hwords : (p.operands k).map operandText = (q.operands k).map operandText :=
    map_eq_map_of_forall₂ (h.operands hk) fun x hx y hxy => hxy.operandText_eq (ih x hx y hxy)
  have hq : q.connective? = some k := h.connective?_eq ▸ hk
  apply String.toList_injective
  rw [toList_explain_of_joined hk, toList_explain_of_joined hq, hwords]

/-- A chain is decided like a rebracketed one if its operands are. -/
theorem matches_chain {k : Connective} (h : Rebracketed p q) (hk : p.connective? = some k)
    {card : Card}
    (ih : ∀ x ∈ p.operands k, ∀ y, Rebracketed x y → x.matches card = y.matches card) :
    p.matches card = q.matches card := by
  have hresults : (p.operands k).map (·.matches card) = (q.operands k).map (·.matches card) :=
    map_eq_map_of_forall₂ (h.operands hk) ih
  rw [matches_eq_settle k p, matches_eq_settle k q, hresults]

end Rebracketed

/-- **Bracketing is invisible.**  Queries that differ only in how their chains are bracketed have
one explanation, and every card makes them come to one verdict or to one fault. -/
theorem bracketing_invisible {p q : Query} (h : p.Rebracketed q) :
    p.explain = q.explain ∧ ∀ card, p.matches card = q.matches card := by
  induction p using chainInduction generalizing q with
  | leaf p hp =>
    obtain rfl := h.eq_of_isLeaf hp
    exact ⟨rfl, fun _ => rfl⟩
  | not p ih =>
    obtain ⟨x, rfl, hx⟩ := h.exists_not
    obtain ⟨hexplain, hmatches⟩ := ih hx
    refine ⟨?_, fun card => ?_⟩
    · change "not (" ++ p.explain ++ ")" = "not (" ++ x.explain ++ ")"
      rw [hexplain]
    · change (do return !(← p.matches card)) = do return !(← x.matches card)
      rw [hmatches card]
  | chain k p hk ih =>
    exact ⟨h.explain_chain hk fun x hx _ hxy => (ih x hx hxy).1,
      fun card => h.matches_chain hk fun x hx _ hxy => (ih x hx hxy).2 card⟩

/-- A chain within a chain, bracketed to the left; one of the operands looks for what is no text. -/
def toTheLeft : Query :=
  .and (.and (.term (.string "r")) (.not (.or (.or (.term (.string "a")) (.term .null))
    (.term (.string "b"))))) (.term (.string "t"))

/-- The same chains, bracketed to the right. -/
def toTheRight : Query :=
  .and (.term (.string "r")) (.and (.not (.or (.term (.string "a")) (.or (.term .null)
    (.term (.string "b"))))) (.term (.string "t")))

theorem toTheRight_alike : toTheLeft.Rebracketed toTheRight
    ∧ toTheLeft.explain = toTheRight.explain
    ∧ toTheLeft.matches (.named (.string "Forest")) = .error .noSuchPart
    ∧ toTheRight.matches (.named (.string "Forest")) = .error .noSuchPart := by
  have hor : Rebracketed
      (.or (.or (.term (.string "a")) (.term .null)) (.term (.string "b")))
      (.or (.term (.string "a")) (.or (.term .null) (.term (.string "b")))) :=
    .assoc .or _ _ _
  have hand : toTheLeft.Rebracketed toTheRight :=
    .chain (k := .and) rfl rfl (.cons (.refl _) (.cons (.not hor) (.cons (.refl _) .nil)))
  obtain ⟨hexplain, hmatches⟩ := bracketing_invisible hand
  have hfault : toTheLeft.matches (.named (.string "Forest")) = .error .noSuchPart := by
    decide +kernel
  exact ⟨hand, hexplain, hfault, (hmatches _).symm.trans hfault⟩

end Query

end CardQuery

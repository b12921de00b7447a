import CardQuery.Proofs.Outcome
import CardQuery.Proofs.Typing.Evaluation
import CardQuery.Search
import Mathlib.Data.List.NodupEquivFin

/-!
# Proofs/Filtering — which cards a search finds

* `filterCards_finds_first` — a query that is decided for all cards finds the first of those that it
  hits, as many as the limit says but at least one.
* `zeroLimit_finds` — so a limit of nothing finds a card.

The limit is looked at only after a card was found.  What is still to be found after `found` cards is
therefore the first of the hits up to the rest of the limit (`matching_eq`), and one hit is let
through by a limit that is used up.
-/

namespace CardQuery

/-! ## Hits -/

/-- Whether a query is decided for a card, and the card matches it. -/
def Query.hits (q : Query) (c : Card) : Bool :=
  match q.matches c with
  | .ok b => b
  | .error _ => false

theorem Query.hits_eq {q : Query} {c : Card} {b : Bool} (h : q.matches c = .ok b) :
    q.hits c = b := by
  rw [hits, h]

/-! ## Limits -/

/-- **The first of a list, up to a limit**, of which at least one is let through. -/
def firstUpTo {α : Type} : Option Int → List α → List α
  | none, s => s
  | some n, s => s.take (max n 1).toNat

section Limits

variable {α : Type}

theorem firstUpTo_sublist (limit : Option Int) (s : List α) : (firstUpTo limit s).Sublist s := by
  cases limit with
  | none => exact List.Sublist.refl s
  | some n => exact List.take_sublist _ s

@[simp] theorem firstUpTo_nil (limit : Option Int) : firstUpTo limit ([] : List α) = [] := by
  cases limit with
  | none => rfl
  | some n => exact List.take_nil

/-- One more is found: nothing else is if the limit is reached by it. -/
theorem firstUpTo_cons (limit : Option Int) (found : Nat) (x : α) (s : List α) :
    firstUpTo (limit.map (· - (found : Int))) (x :: s) =
      if limit.any (· ≤ (found + 1 : Int)) then [x]
      else x :: firstUpTo (limit.map (· - ((found + 1 : Nat) : Int))) s := by
  cases limit with
  | none => rfl
  | some n =>
    simp only [Option.map_some, Option.any_some, firstUpTo, decide_eq_true_eq]
    split
    · have hone : (max (n - (found : Int)) 1).toNat = 1 := by omega
      rw [hone]
      rfl
    · have hmore : (max (n - (found : Int)) 1).toNat
          = (max (n - ((found + 1 : Nat) : Int)) 1).toNat + 1 := by omega
      rw [hmore, List.take_succ_cons]

end Limits

/-! ## Filtering -/

section Filtering

variable {q : Query} {cards : List Card}

section Steps

variable {limit : Option Int} {found : Nat} {c : Card} {rest : List Card}

/-- A card that does not match is passed over. -/
theorem matching_of_miss (h : q.matches c = .ok false) :
    matching q limit found (c :: rest) = matching q limit found rest := by
  rw [matching, h]
  rfl

/-- A card that reaches the limit is the last one. -/
theorem matching_of_last (h : q.matches c = .ok true)
    (hlimit : limit.any (· ≤ (found + 1 : Int)) = true) :
    matching q limit found (c :: rest) = .ok [c] := by
  rw [matching, h, ok_bind, if_pos rfl, if_pos hlimit]
  rfl

/-- Behind a card that does not reach the limit the search goes on. -/
theorem matching_of_hit (h : q.matches c = .ok true)
    (hlimit : ¬ limit.any (· ≤ (found + 1 : Int)) = true) :
    matching q limit found (c :: rest) = (matching q limit (found + 1) rest).map (c :: ·) := by
  rw [matching, h, ok_bind, if_pos rfl, if_neg hlimit]
  cases matching q limit (found + 1) rest with
  | ok ms => rfl
  | error f => rfl

end Steps

/-- **The search finds the first hits**, as many as are left of the limit. -/
theorem matching_eq (h : ∀ c ∈ cards, Succeeds (q.matches c)) (limit : Option Int) (found : Nat) :
    matching q limit found cards
      = .ok (firstUpTo (limit.map (· - (found : Int))) (cards.filter q.hits)) := by
  induction cards generalizing found with
  | nil =>
    rw [List.filter_nil, firstUpTo_nil]
    rfl
  | cons c cards ih =>
    obtain ⟨⟨b, hb⟩, hcards⟩ := List.forall_mem_cons.mp h
    have hhits : q.hits c = b := Query.hits_eq hb
    cases b with
    | false =>
      rw [matching_of_miss hb, List.filter_cons_of_neg (by rw [hhits]; nofun)]
      exact ih hcards found
    | true =>
      rw [List.filter_cons_of_pos hhits, firstUpTo_cons]
      split
      · exact matching_of_last hb ‹_›
      · rw [matching_of_hit hb ‹_›, ih hcards (found + 1)]
        rfl

theorem filterCards_eq {query : String} (hparse : Query.parse query = .ok q)
    (h : ∀ c ∈ cards, Succeeds (q.matches c)) (limit : Option Int) :
    filterCards cards query limit = .ok (firstUpTo limit (cards.filter q.hits)) := by
  have hmatching := matching_eq h limit 0
  rw [filterCards, hparse, ok_bind, hmatching]
  simp

end Filtering

/-! ## Searches -/

/-- **A search finds the first of the cards that match**, in their order and each place at most once:
all of them without a limit, and with one as many as it says but at least one. -/
theorem filterCards_finds_first {cards : List Card} {query : String} {q : Query}
    (hparse : Query.parse query = .ok q) (hdecided : ∀ c ∈ cards, Succeeds (q.matches c))
    (limit : Option Int) :
    ∃ found, filterCards cards query limit = .ok found
      ∧ found = (match limit with
        | none => cards.filter q.hits
        | some n => (cards.filter q.hits).take (max n 1).toNat)
      ∧ (∀ n, limit = some n → 1 ≤ n → (found.length : Int) ≤ n)
      ∧ ∃ place : Fin found.length ↪o Fin cards.length, ∀ i, found.get i = cards.get (place i) := by
  refine ⟨_, filterCards_eq hparse hdecided limit, ?_, ?_, ?_⟩
  · cases limit with
    | none => rfl
    | some n => rfl
  · rintro n rfl hn
    have hlen : (firstUpTo (some n) (cards.filter q.hits)).length ≤ (max n 1).toNat :=
      List.length_take_le _ _
    omega
  · have hsub : (firstUpTo limit (cards.filter q.hits)).Sublist cards :=
      (firstUpTo_sublist limit _).trans List.filter_sublist
    exact List.sublist_iff_exists_fin_orderEmbedding_get_eq.mp hsub

/-- Cards with names of which three have a piece in common. -/
def fourNames : List Card :=
  ["Lightning Bolt", "Serra Angel", "Bolt Bend", "Thunderbolt"].map fun s => .named (.string s)

/-- Every query is decided for them. -/
theorem fourNames_decided {query : String} {q : Query} (hparse : Query.parse query = .ok q) :
    ∀ c ∈ fourNames, Succeeds (q.matches c) := by
  intro c hc
  obtain ⟨s, -, rfl⟩ := List.mem_map.mp hc
  exact (Card.named_wellFormed s).matches_succeeds (Query.parse_wellTyped hparse)

theorem fourNames_found :
    ∃ q found, Query.parse "bolt" = .ok q ∧ (∀ c ∈ fourNames, Succeeds (q.matches c))
      ∧ filterCards fourNames "bolt" (some 2) = .ok found
      ∧ found = (fourNames.filter q.hits).take 2
      ∧ found.map (·.name.text) = ["Lightning Bolt", "Bolt Bend"]
      ∧ ∃ place : Fin found.length ↪o Fin fourNames.length,
          ∀ i, found.get i = fourNames.get (place i) := by
  have hnames : (filterCards fourNames "bolt" (some 2)).toOption.map
      (List.map fun c => c.name.text) = some ["Lightning Bolt", "Bolt Bend"] := by
    decide +kernel
  have hok : (Query.parse "bolt").toBool = true := by decide +kernel
  cases hparse : Query.parse "bolt" with
  | error f =>
    rw [hparse] at hok
    cases hok
  | ok q =>
    have hdecided := fourNames_decided hparse
    obtain ⟨found, hfound, hfirst, -, hplace⟩ :=
      filterCards_finds_first hparse hdecided (some 2)
    rw [hfound] at hnames
    exact ⟨q, found, rfl, hdecided, hfound, hfirst, Option.some.inj hnames, hplace⟩

/-- **A limit of nothing finds a card**: it is looked at only after the first match. -/
theorem zeroLimit_finds :
    ∃ q found, Query.parse "bolt" = .ok q ∧ (∀ c ∈ fourNames, Succeeds (q.matches c))
      ∧ filterCards fourNames "bolt" (some 0) = .ok found
      ∧ found ≠ (fourNames.filter q.hits).take 0 := by
  have hcount : (filterCards fourNames "bolt" (some 0)).toOption.map List.length = some 1 := by
    decide +kernel
  have hok : (Query.parse "bolt").toBool = true := by decide +kernel
  cases hparse : Query.parse "bolt" with
  | error f =>
    rw [hparse] at hok
    cases hok
  | ok q =>
    have hdecided := fourNames_decided hparse
    refine ⟨q, _, rfl, hdecided, filterCards_eq hparse hdecided (some 0), ?_⟩
    intro hnothing
    rw [filterCards_eq hparse hdecided, hnothing] at hcount
    cases hcount

end CardQuery

import CardQuery.Proofs.Lexer.Cutting

/-!
# Proofs/Lexer/Tiling — the tokens of a query tile it

* `tokens_tile` — the tokens of a query that is not blank stand one behind the other, each is
  written in its place, and what no token takes are gap characters.

The facts about places follow the cutting of the text (`Cuts`): the part of the text that was cut
before grows with the place.
-/

namespace CardQuery

open Text

theorem isBlank_of_isGap {c : Char} (h : isGap c = true) : isBlank c = true := by
  simp only [isGap, Bool.or_eq_true, beq_iff_eq] at h
  rcases h with ((rfl | rfl) | rfl) | rfl <;> decide

namespace Cuts

variable {value : Bool} {before s : List Char} {place : Nat} {ts : List Token}

/-- Tokens are not empty, and lie within the text that they are cut from. -/
theorem bounds (h : Cuts value before place s ts) :
    ∀ t ∈ ts, place ≤ t.start ∧ t.start < t.stop ∧ t.stop ≤ place + s.length := by
  induction h with
  | done => nofun
  | gap _ _ _ ih =>
    intro t ht
    have := ih t ht
    rw [List.length_cons]
    omega
  | token _ _ _ ih =>
    intro t ht
    rw [List.length_cons, List.length_append]
    rcases List.mem_cons.mp ht with rfl | ht
    · dsimp only
      omega
    · have := ih t ht
      omega

/-- **No token begins before the one before it has ended.** -/
theorem ordered (h : Cuts value before place s ts) : ts.Pairwise fun a b => a.stop ≤ b.start := by
  induction h with
  | done => exact .nil
  | gap _ _ _ ih => exact ih
  | token _ _ h ih => exact .cons (fun t ht => (h.bounds t ht).1) ih

/-- **A token is written in its place.** -/
theorem spelled (h : Cuts value before place s ts) (former : List Char)
    (hplace : former.length = place) :
    ∀ t ∈ ts, Spells t.kind t.text.toList ((former ++ s).extract t.start t.stop) := by
  induction h generalizing former with
  | done => nofun
  | @gap _ _ place c tail _ _ _ _ ih =>
    have hlen : (former ++ [c]).length = place + 1 := by rw [List.length_append, hplace]; rfl
    simpa using ih _ hlen
  | @token _ _ place c more rest kind text _ _ hspells _ ih =>
    refine List.forall_mem_cons.mpr ⟨?_, ?_⟩
    · have hslice : (former ++ c :: (more ++ rest)).extract place (place + 1 + more.length)
          = c :: more := by
        have hsize : place + 1 + more.length - place = (c :: more).length := by
          rw [List.length_cons]
          omega
        rw [List.extract_eq_take_drop, hsize, ← hplace, List.drop_left, ← List.cons_append,
          List.take_left]
      rw [hslice, String.toList_ofList]
      exact hspells
    · have hlen : (former ++ c :: more).length = place + 1 + more.length := by
        rw [List.length_append, List.length_cons, hplace]
        omega
      simpa using ih _ hlen

/-- **What no token takes is a gap.** -/
theorem gaps (h : Cuts value before place s ts) (former : List Char)
    (hplace : former.length = place) {i : Nat} (hi : place ≤ i) {c : Char}
    (hc : (former ++ s)[i]? = some c) (hout : ∀ t ∈ ts, ¬ (t.start ≤ i ∧ i < t.stop)) :
    isGap c = true := by
  induction h generalizing former with
  | done =>
    obtain ⟨hlt, -⟩ := List.getElem?_eq_some_iff.mp hc
    rw [List.append_nil] at hlt
    omega
  | @gap _ _ place d tail _ _ hgap _ ih =>
    by_cases he : i = place
    · rw [he, ← hplace, List.getElem?_append_right (Nat.le_refl _), Nat.sub_self] at hc
      obtain rfl : d = c := Option.some.inj hc
      exact hgap
    · have hlen : (former ++ [d]).length = place + 1 := by rw [List.length_append, hplace]; rfl
      exact ih _ hlen (by omega) (by simpa using hc) hout
  | @token _ _ place d more rest _ _ _ _ _ _ ih =>
    obtain ⟨hfirst, hothers⟩ := List.forall_mem_cons.mp hout
    have hlen : (former ++ d :: more).length = place + 1 + more.length := by
      rw [List.length_append, List.length_cons, hplace]
      omega
    exact ih _ hlen (by dsimp only at hfirst; omega) (by simpa using hc) hothers

end Cuts

/-- **The tokens of a query tile it.**  A query that is not blank has tokens; they are not empty, lie
within it and stand in its order without overlap; what no token takes are gap characters; each token
is written in its place; and a token follows the one before it exactly if there is nothing between
the two. -/
theorem tokens_tile {query : String} {ts : List Token} (hblank : isBlankText query = false)
    (h : tokenize query = .ok ts) :
    ts ≠ []
      ∧ (∀ t ∈ ts, t.start < t.stop ∧ t.stop ≤ query.length)
      ∧ ts.Pairwise (fun a b => a.stop ≤ b.start)
      ∧ (∀ i c, query.toList[i]? = some c → (∀ t ∈ ts, ¬ (t.start ≤ i ∧ i < t.stop)) →
          isGap c = true)
      ∧ (∀ t ∈ ts, Spells t.kind t.text.toList (query.toList.extract t.start t.stop))
      ∧ ∀ i (hi : i + 1 < ts.length), ts[i + 1].follows ts[i] = true ↔
          query.toList.extract ts[i].stop ts[i + 1].start = [] := by
  have hcuts : Cuts false [] 0 query.toList ts := by
    have hcuts := tokenize_eq_ok_iff.mp h
    rwa [if_neg (by rw [hblank]; nofun)] at hcuts
  have hbounds (t : Token) (ht : t ∈ ts) : t.start < t.stop ∧ t.stop ≤ query.length := by
    have hb := hcuts.bounds t ht
    rw [String.length_toList] at hb
    omega
  have hgaps (i : Nat) (c : Char) (hc : query.toList[i]? = some c)
      (hout : ∀ t ∈ ts, ¬ (t.start ≤ i ∧ i < t.stop)) : isGap c = true :=
    hcuts.gaps [] rfl (Nat.zero_le i) hc hout
  refine ⟨?_, hbounds, hcuts.ordered, hgaps, hcuts.spelled [] rfl, fun i hi => ?_⟩
  · -- without tokens all characters would be gaps, and the query blank
    rintro rfl
    have hall : query.toList.all isBlank = true := by
      refine List.all_eq_true.mpr fun c hc => ?_
      obtain ⟨i, hi, hget⟩ := List.getElem_of_mem hc
      exact isBlank_of_isGap (hgaps i c (List.getElem?_eq_some_iff.mpr ⟨hi, hget⟩) nofun)
    rw [isBlankText, hall] at hblank
    cases hblank
  · have hle := List.pairwise_iff_getElem.mp hcuts.ordered i (i + 1) (by omega) hi (by omega)
    have hstop := hbounds ts[i + 1] (List.getElem_mem hi)
    rw [Token.follows, beq_iff_eq, List.extract_eq_take_drop, List.take_eq_nil_iff,
      List.drop_eq_nil_iff, String.length_toList]
    omega

/-- Tokens of most kinds, with blanks of several kinds between and within them. -/
theorem mixed_query_tiled :
    ∃ ts, tokenize "-(o:\"a \\\" b\"\tOR /x\\/y/gi)\n! \"Ice\" pow>-1 fire/ice" = .ok ts ∧ ts.length = 11
      ∧ ts.Pairwise (fun a b => a.stop ≤ b.start)
      ∧ ∀ t ∈ ts, Spells t.kind t.text.toList
          ("-(o:\"a \\\" b\"\tOR /x\\/y/gi)\n! \"Ice\" pow>-1 fire/ice".toList.extract t.start t.stop) := by
  have hcount : (tokenize "-(o:\"a \\\" b\"\tOR /x\\/y/gi)\n! \"Ice\" pow>-1 fire/ice").toOption.map
      List.length = some 11 := by decide +kernel
  rcases h : tokenize "-(o:\"a \\\" b\"\tOR /x\\/y/gi)\n! \"Ice\" pow>-1 fire/ice" with r | ts
  · rw [h] at hcount
    cases hcount
  · rw [h] at hcount
    have hlen : ts.length = 11 := Option.some.inj hcount
    obtain ⟨-, -, hordered, -, hspelled, -⟩ := tokens_tile (by decide +kernel) h
    exact ⟨ts, rfl, hlen, hordered, hspelled⟩

end CardQuery

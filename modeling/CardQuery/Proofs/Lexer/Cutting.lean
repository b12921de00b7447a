import CardQuery.Proofs.Lexer.Spelling

/-!
# Proofs/Lexer/Cutting — how a text is cut into tokens

`Cuts value before place s ts` follows the cutting of a text from one token or gap character to the
next, with what the cutting goes by: whether an operator stands right before, and what stands before
at all.

* `tokensFrom_eq_ok_iff` — a text is cut into tokens exactly if `Cuts` says so.

Facts about the tokens of a query are proved by induction on `Cuts`.
-/

namespace CardQuery

open Text

/-- **How a text is cut into tokens.** -/
inductive Cuts : Bool → List Char → Nat → List Char → List Token → Prop where
  | done {value : Bool} {before : List Char} {place : Nat} : Cuts value before place [] []
  | gap {value : Bool} {before : List Char} {place : Nat} {c : Char} {tail : List Char}
      {ts : List Token} :
      startAt value before c tail = .nothing → isGap c = true →
      Cuts false (c :: before) (place + 1) tail ts → Cuts value before place (c :: tail) ts
  | token {value : Bool} {before : List Char} {place : Nat} {c : Char} {more rest : List Char}
      {kind : TokenKind} {text : List Char} {ts : List Token} :
      startAt value before c (more ++ rest) = .token kind text more.length →
      Spells kind text (c :: more) →
      Cuts kind.takesValue (more.reverse ++ c :: before) (place + 1 + more.length) rest ts →
      Cuts value before place (c :: (more ++ rest))
        (⟨kind, String.ofList text, place, place + 1 + more.length⟩ :: ts)

/-- One step of the cutting. -/
theorem tokensFrom_cons (value : Bool) (before : List Char) (place : Nat) (c : Char)
    (tail : List Char) :
    tokensFrom value before place (c :: tail) =
      match startAt value before c tail with
      | .token kind text extra => do
        let rest ← tokensFrom kind.takesValue ((tail.take extra).reverse ++ c :: before)
          (place + 1 + extra) (tail.drop extra)
        return ⟨kind, String.ofList text, place, place + 1 + extra⟩ :: rest
      | .unclosed p => .error (p, .span place (place + 1 + tail.length))
      | .nothing =>
        if isGap c then tokensFrom false (c :: before) (place + 1) tail
        else .error (.unexpectedCharacter c, .span place (place + 1)) := by
  rw [tokensFrom]
  rfl

theorem cuts_of_tokensFrom {value : Bool} {before : List Char} {place : Nat} {s : List Char}
    {ts : List Token} (h : tokensFrom value before place s = .ok ts) :
    Cuts value before place s ts := by
  fun_induction tokensFrom value before place s generalizing ts with
  | case1 =>
    cases h
    exact .done
  | case2 value before place c tail kind text extra hstart stop =>
    rename_i ih
    have hstart : startAt value before c tail = .token kind text extra := hstart
    have hspelled := startAt_spelled before c tail value
    rw [hstart] at hspelled
    obtain ⟨more, rest, rfl, rfl, hspells⟩ := hspelled
    rw [List.take_left, List.drop_left] at h ih
    rcases hrest : tokensFrom kind.takesValue (more.reverse ++ c :: before)
      (place + 1 + more.length) rest with e | us
    · rw [hrest] at h
      cases h
    · rw [hrest] at h
      obtain rfl : _ :: us = ts := Except.ok.inj h
      exact .token hstart hspells (ih hrest)
  | case3 => cases h
  | case4 value before place c tail hstart hgap ih => exact .gap hstart hgap (ih h)
  | case5 => cases h

theorem Cuts.tokensFrom {value : Bool} {before : List Char} {place : Nat} {s : List Char}
    {ts : List Token} (h : Cuts value before place s ts) :
    tokensFrom value before place s = .ok ts := by
  induction h with
  | done => rw [CardQuery.tokensFrom]
  | gap hstart hgap _ ih => rw [tokensFrom_cons, hstart, ← ih, if_pos hgap]
  | token hstart _ _ ih =>
    rw [tokensFrom_cons, hstart]
    dsimp only
    rw [List.take_left, List.drop_left, ih]
    rfl

/-- **A text is cut into tokens exactly as `Cuts` says.** -/
theorem tokensFrom_eq_ok_iff {value : Bool} {before : List Char} {place : Nat} {s : List Char}
    {ts : List Token} : tokensFrom value before place s = .ok ts ↔ Cuts value before place s ts :=
  ⟨cuts_of_tokensFrom, Cuts.tokensFrom⟩

/-- The tokens of a query that is not blank are cut off it. -/
theorem tokenize_eq_ok_iff {query : String} {ts : List Token} :
    tokenize query = .ok ts ↔
      if isBlankText query then ts = [] else Cuts false [] 0 query.toList ts := by
  rw [tokenize]
  split
  · exact ⟨fun h => (Except.ok.inj h).symm, fun h => by rw [h]⟩
  · rw [← tokensFrom_eq_ok_iff]
    rcases tokensFrom false [] 0 query.toList with e | us
    · exact ⟨nofun, nofun⟩
    · exact ⟨fun h => by cases h; rfl, fun h => by cases h; rfl⟩

/-- The tokens of a query that has one are cut off it. -/
theorem cuts_of_tokenize {query : String} {ts : List Token} {t : Token}
    (h : tokenize query = .ok ts) (ht : t ∈ ts) : Cuts false [] 0 query.toList ts := by
  have hcuts := tokenize_eq_ok_iff.mp h
  split at hcuts
  · rw [hcuts] at ht
    cases ht
  · exact hcuts

end CardQuery

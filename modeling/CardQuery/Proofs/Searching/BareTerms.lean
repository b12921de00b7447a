import CardQuery.Proofs.Grammar.Atoms
import CardQuery.Proofs.Grammar.Quoting
import CardQuery.Proofs.Lexer.OperatorWords
import CardQuery.Proofs.Searching.Texts

/-!
# Proofs/Searching/BareTerms — terms and comparisons of names

* `bareTerm_names_cards` — a query of one word, quotation or pattern is also a value for the names
  of cards, and as a comparison it matches the same cards.

A value is cut by rules of its own, which agree with those for terms on all tokens that can be
values where a pattern may begin (`valueAt_of_itemAt`).
-/

namespace CardQuery

open Json Text Query Grammar

/-! ## Terms as values -/

section Starts

variable {before tail chars : List Char} {c : Char} {kind : TokenKind} {n : Nat}

theorem exactNameAt_kind (h : exactNameAt tail = .token kind chars n) : kind = .exactName := by
  rw [exactNameAt] at h
  split at h
  · cases h
  dsimp only at h
  split at h
  · exact quotationAt_kind h
  split at h
  · cases h
  · cases h
    rfl

theorem keywordAt_kind {k : TokenKind} {word : List Char}
    (h : keywordAt k word c tail = .token kind chars n) : kind = k := by
  rw [keywordAt] at h
  split at h
  · cases h
    rfl
  · cases h

/-- **What begins a term begins a value**, if it can be one and a pattern may begin there. -/
theorem valueAt_of_itemAt (hopens : mayOpenPattern before = true) (hkind : kind.isValue = true)
    (h : itemAt before c tail = .token kind chars n) : valueAt c tail = .token kind chars n := by
  rw [itemAt, hopens] at h
  rw [valueAt]
  split at h
  · cases h
    cases hkind
  split at h
  · cases h
    cases hkind
  split at h
  · rename_i hquote
    rwa [if_pos hquote]
  rename_i hquote
  rw [if_neg hquote]
  split at h
  · cases h
    cases hkind
  split at h
  · rename_i hmark
    rcases Start.orElse_eq_token h with h | ⟨-, h⟩
    · rw [exactNameAt_kind h] at hkind
      cases hkind
    · rwa [eq_of_beq hmark] at h ⊢
  split at h
  · rename_i hslash
    rwa [if_pos hslash]
  · rename_i hslash
    rw [if_neg hslash]
    -- operator words and names of fields with an operator are no values
    rcases Start.orElse_eq_token h with h | ⟨-, h⟩
    · rw [keywordAt_kind h] at hkind
      cases hkind
    rcases Start.orElse_eq_token h with h | ⟨-, h⟩
    · rw [keywordAt_kind h] at hkind
      cases hkind
    rcases Start.orElse_eq_token h with h | ⟨-, h⟩
    · obtain ⟨name, op, rfl⟩ := comparisonAt_kind h
      cases hkind
    · exact h

end Starts

/-- **A token that spans a text is cut from it behind an operator, too.** -/
theorem exists_cuts_value {s : List Char} {t : Token} (h : Cuts false [] 0 s [t])
    (hkind : t.kind.isValue = true) (hstart : t.start = 0) (hstop : t.stop = s.length) :
    ∃ c more, s = c :: more ∧ ∀ before place,
      ∃ stop, Cuts true before place (c :: more) [⟨t.kind, t.text, place, stop⟩] := by
  cases h with
  | gap _ _ h =>
    -- the token would begin later
    have hlate := (h.bounds t List.mem_cons_self).1
    omega
  | @token _ _ _ c more rest kind text _ hitem hspells h =>
    have hrest : rest = [] := by
      rw [List.length_cons, List.length_append] at hstop
      exact List.length_eq_zero_iff.mp (by dsimp only at hstop; omega)
    subst hrest
    refine ⟨c, more, by rw [List.append_nil], fun before place => ⟨place + 1 + more.length, ?_⟩⟩
    have hvalue : valueAt c (more ++ []) = .token kind text more.length :=
      valueAt_of_itemAt rfl hkind hitem
    have hstart : startAt true before c (more ++ []) = .token kind text more.length := by
      rw [startAt, if_pos rfl, hvalue]
      rfl
    have hcuts : Cuts true before place (c :: (more ++ [])) _ := .token hstart hspells .done
    rwa [List.append_nil] at hcuts

/-! ## Queries of one token -/

namespace Grammar

/-- **A query of one token** that can be a value is a bare term. -/
theorem Derives.makes_single {l : Level} {t : Token} {q : Query} (h : Derives l [t] q)
    (hkind : t.kind.isValue = true) : (Atom.single t).Makes q := by
  -- two parts would be two tokens at least
  have hparts {ts us : List Token} (hts : ts ≠ []) (hus : us ≠ []) : [t] ≠ ts ++ us := by
    intro heq
    have hlength := congrArg List.length heq
    rw [List.length_singleton, List.length_append] at hlength
    have := List.length_pos_iff.mpr hts
    have := List.length_pos_iff.mpr hus
    omega
  generalize hsingle : [t] = ts at h
  induction h with
  | ofBoth _ ih | ofNegation _ ih | ofTerm _ ih => exact ih hsingle
  | or hp _ _ | and hp _ _ => exact absurd hsingle (hparts hp.ne_nil (List.cons_ne_nil _ _))
  | beside hp hq => exact absurd hsingle (hparts hp.ne_nil hq.ne_nil)
  | not ht =>
    cases hsingle
    rw [ht] at hkind
    cases hkind
  | group => exact absurd hsingle (hparts (List.cons_ne_nil _ _) (List.cons_ne_nil _ _))
  | exactName ht =>
    cases hsingle
    exact .exactName ht
  | bare ht =>
    cases hsingle
    exact .bare ht
  | pattern ht hp =>
    cases hsingle
    exact .pattern ht hp
  | compare | colorless => cases hsingle

end Grammar

/-- **The value that a token gives the field of names** is looked for as the bare term is. -/
theorem exists_value_of_makes {t : Token} {q : Query} (h : (Atom.single t).Makes q)
    (hkind : t.kind.isValue = true) :
    ∃ value : Value, value.IsTextual
      ∧ (∀ v : Token, v.kind = t.kind → v.text = t.text →
        Value.ofToken (m := Id) Pattern.make .name .colon v = .ok value)
      ∧ ∀ c : Card, IsText c.name → IsTexts c.faceNames →
        q.matches c = .ok ((c.texts .name).any (value.meets .colon)) := by
  cases h with
  | exactName ht =>
    rw [ht] at hkind
    cases hkind
  | bare ht =>
    refine ⟨.text (.string t.text), .inl ⟨_, rfl⟩, fun v hv htext => ?_, fun c hname hfaces =>
      matches_term_eq hname hfaces t.text⟩
    have hwritten : Value.ofWritten .name .colon t.text = .ok (.text (.string t.text)) := by
      have hstat : Field.name.isStat = false := rfl
      rw [Value.ofWritten, hstat, Bool.and_false]
      rfl
    rw [Value.ofToken, hv, htext]
    rcases ht with ht | ht <;> rw [ht] <;> exact hwritten
  | @pattern _ flags p ht hp =>
    refine ⟨.pattern p, .inr ⟨p, rfl⟩, fun v hv htext => ?_, fun c hname hfaces =>
      matches_pattern_eq hname hfaces p⟩
    rw [← htext] at hp
    rw [Value.ofToken, hv, ht]
    exact bind_of_ok (patternOfToken_eq_ok.mpr hp)

/-- **A bare term means the same as a comparison of names.** -/
theorem bareTerm_names_cards {text : String} {q : Query} {t : Token} (hparse : parse text = .ok q)
    (htokens : tokenize text = .ok [t]) (hkind : t.kind.isValue = true) (hstart : t.start = 0)
    (hstop : t.stop = text.length) :
    ∃ q', parse ("name:" ++ text) = .ok q'
      ∧ ∀ c : Card, IsText c.name → IsTexts c.faceNames →
          ∃ b, q.matches c = .ok b ∧ q'.matches c = .ok b := by
  obtain ⟨ts, htokens', hq⟩ := parse_eq_ok.mp hparse
  cases htokens.symm.trans htokens'
  have hmakes := (ofTokens_eq_ok_iff.mp hq).makes_single hkind
  obtain ⟨value, htextual, htyped, hmatches⟩ := exists_value_of_makes hmakes hkind
  have hcuts := cuts_of_tokenize htokens List.mem_cons_self
  obtain ⟨d, more, htext, hvalue⟩ := exists_cuts_value hcuts hkind hstart
    (by rw [hstop, String.length_toList])
  have hcomparison : parse ("name" ++ CompareOp.colon.text ++ String.ofList (d :: more))
      = .ok (.compare .name .colon value) :=
    parse_comparison (by decide) (by decide) rfl hkind hvalue htyped fun h => nomatch h.1
  rw [← htext, String.ofList_toList] at hcomparison
  refine ⟨_, hcomparison, fun c hname hfaces => ⟨_, hmatches c hname hfaces, ?_⟩⟩
  exact Card.holds_name_eq hname hfaces htextual (.inl rfl)

/-- A pattern with a slash and flags, which finds a card either way. -/
theorem slashedPattern_names_cards :
    ∃ q q', parse "/E \\/\\/ i/gi" = .ok q ∧ parse "name:/E \\/\\/ i/gi" = .ok q'
      ∧ q.matches (.named (.string "Fire // Ice")) = .ok true
      ∧ q'.matches (.named (.string "Fire // Ice")) = .ok true := by
  have htokens : (tokenize "/E \\/\\/ i/gi").toOption
      = some [⟨.pattern "gi", "E \\/\\/ i", 0, 12⟩] := by decide +kernel
  have hfound : (parse "/E \\/\\/ i/gi").toOption.bind
      (fun q => (q.matches (.named (.string "Fire // Ice"))).toOption) = some true := by
    decide +kernel
  obtain ⟨q, hq, hmatches⟩ := Option.bind_eq_some_iff.mp hfound
  have hparse := eq_ok_of_toOption hq
  obtain ⟨q', hparse', hall⟩ :=
    bareTerm_names_cards hparse (eq_ok_of_toOption htokens) rfl rfl (by decide)
  obtain ⟨b, hb, hb'⟩ := hall (.named (.string "Fire // Ice")) ⟨_, rfl⟩ ⟨[], rfl, nofun⟩
  rw [eq_ok_of_toOption hmatches] at hb
  cases hb
  exact ⟨q, q', hparse, hparse', eq_ok_of_toOption hmatches, hb'⟩

end CardQuery

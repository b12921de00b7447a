import CardQuery.Proofs.Lexer.Slashes

/-!
# Proofs/Lexer/OperatorWords — where "or" and "and" are operators

* `itemAt_operatorWord_iff` — the letters of an operator word are an operator exactly if a word ends
  behind them, and otherwise they are a bare word with a double quote behind it.
* `operatorWord_lexed` — so of the tokens that are written as an operator word, and are no value of
  a comparison, those before a double quote are bare words and all others are operators.
* `quotedOr_is_word` — in `or"a"` the letters are no operator.

A bare word ends at white space, a parenthesis or a double quote; an operator word has to have white
space or a parenthesis behind it, or the end of the query.  The double quote is where the two differ.
-/

namespace CardQuery

open Text

section Starts

variable {c : Char} {before more rest tail chars lexeme word : List Char} {kind k : TokenKind}
  {n : Nat}

/-- **Only bare words and operators are written as operator words.** -/
theorem Spells.of_operatorWord (h : Spells kind chars lexeme) (hword : IsOperatorWord lexeme) :
    chars = lexeme ∧ (kind = .word ∨ kind = .and ∨ kind = .or) := by
  have hletter {d : Char} (hd : d ∈ lexeme) : isNameStart d = true := (hword.letter hd).1
  have hmark {d : Char} (hd : isNameStart d = false) : d ∉ lexeme := by
    intro hmem
    rw [hletter hmem] at hd
    cases hd
  cases h with
  | word => exact ⟨rfl, .inl rfl⟩
  | and => exact ⟨rfl, .inr (.inl rfl)⟩
  | or => exact ⟨rfl, .inr (.inr rfl)⟩
  | @comparison name op =>
    have hlast : op.text.toList.any (fun d => !isNameStart d) = true := by
      cases op with
      | _ => decide
    obtain ⟨d, hd, hstart⟩ := List.any_eq_true.mp hlast
    exact absurd (List.mem_append_right name hd) (hmark (by simpa using hstart))
  | opening => exact absurd List.mem_cons_self (hmark (d := '(') (by decide))
  | closing => exact absurd List.mem_cons_self (hmark (d := ')') (by decide))
  | not => exact absurd List.mem_cons_self (hmark (d := '-') (by decide))
  | quoted => exact absurd (by simp) (hmark (d := '"') (by decide))
  | pattern => exact absurd (by simp) (hmark (d := '/') (by decide))
  | exactName => exact absurd (by simp) (hmark (d := '!') (by decide))
  | exactQuotation => exact absurd (by simp) (hmark (d := '!') (by decide))

/-- An operator is written as an operator word, and so is a bare word that is one. -/
theorem Spells.isOperatorWord (h : Spells kind chars lexeme)
    (hkind : kind = .word ∧ IsOperatorWord chars ∨ kind = .and ∨ kind = .or) :
    IsOperatorWord lexeme := by
  cases h with
  | word => simpa using hkind
  | and hmap => exact .inr hmap
  | or hmap => exact .inl hmap
  | _ => simp at hkind

/-- An operator has the end of a word behind it. -/
theorem keywordAt_eq_token (h : keywordAt k word c tail = .token kind chars n) :
    atWordEnd (tail.drop n) = true := by
  rw [keywordAt] at h
  split at h
  · rename_i hword
    cases h
    exact (Bool.and_eq_true_iff.mp hword).2
  · cases h

theorem comparisonAt_kind (h : comparisonAt c tail = .token kind chars n) :
    ∃ field op, kind = .comparison field op := by
  rw [comparisonAt] at h
  split at h
  · dsimp only at h
    split at h
    · cases h
      exact ⟨_, _, rfl⟩
    · cases h
  · cases h

/-- **Behind an operator word that is an operator a word ends.** -/
theorem atWordEnd_of_itemAt (hc : isNameStart c = true) (hkind : kind = .and ∨ kind = .or)
    (h : itemAt before c tail = .token kind chars n) : atWordEnd (tail.drop n) = true := by
  rw [itemAt_of_isNameStart before tail hc] at h
  rcases Start.orElse_eq_token h with h | ⟨-, h⟩
  · exact keywordAt_eq_token h
  rcases Start.orElse_eq_token h with h | ⟨-, h⟩
  · exact keywordAt_eq_token h
  rcases Start.orElse_eq_token h with h | ⟨-, h⟩
  · obtain ⟨field, op, rfl⟩ := comparisonAt_kind h
    rcases hkind with hkind | hkind
    · cases hkind
    · cases hkind
  · obtain ⟨rfl, -⟩ := wordAt_eq_token h
    rcases hkind with hkind | hkind
    · cases hkind
    · cases hkind

/-- A bare word that is written as an operator word has a double quote behind it. -/
theorem head?_eq_quote_of_itemAt (hword : IsOperatorWord (c :: more))
    (h : itemAt before c (more ++ rest) = .token .word chars more.length) :
    rest.head? = some '"' := by
  cases hend : atWordEnd rest with
  | true =>
    obtain ⟨kind, hkind, hitem⟩ := itemAt_operatorWord before hword hend
    rw [h] at hitem
    cases hitem
    exact absurd rfl hkind
  | false =>
    obtain ⟨b, rest, rfl⟩ := List.exists_cons_of_ne_nil (l := rest) (by rintro rfl; cases hend)
    have hcomplete := itemAt_complete before c (more ++ b :: rest)
    rw [h, Start.Complete, List.take_left, List.drop_left] at hcomplete
    rcases hcomplete with ⟨flags, hkind, -⟩ | hlast | hstop
    · cases hkind
    · -- the last letter is a word character
      have hget := List.getLast?_eq_some_getLast (List.cons_ne_nil c more)
      have hname := (hword.letter (List.getLast_mem (List.cons_ne_nil c more))).1
      cases (hlast _ hget).symm.trans (isWordChar_of_isNameStart hname)
    · rcases atWordEnd_cons_eq_false_iff.mp hend with hvalue | rfl
      · cases hvalue.symm.trans (hstop b rfl)
      · rfl

/-- **The letters of an operator word are an operator or a bare word**, and it is a double quote
behind them that makes them a bare word. -/
theorem itemAt_operatorWord_iff (hword : IsOperatorWord (c :: more))
    (hspells : Spells kind chars (c :: more))
    (h : itemAt before c (more ++ rest) = .token kind chars more.length) :
    (kind = .word ↔ rest.head? = some '"') ∧ (kind = .and ∨ kind = .or ↔ rest.head? ≠ some '"') := by
  have hoperator (hkind : kind = .and ∨ kind = .or) : rest.head? ≠ some '"' := by
    have hend := atWordEnd_of_itemAt (hword.letter List.mem_cons_self).1 hkind h
    rw [List.drop_left] at hend
    intro hquote
    obtain ⟨rest, rfl⟩ := List.head?_eq_some_iff.mp hquote
    cases hend
  obtain ⟨-, rfl | hkind⟩ := hspells.of_operatorWord hword
  · have hquote := head?_eq_quote_of_itemAt hword h
    exact ⟨iff_of_true rfl hquote, iff_of_false (by simp) (not_not.mpr hquote)⟩
  · have hquote := hoperator hkind
    refine ⟨iff_of_false ?_ hquote, iff_of_true hkind hquote⟩
    rintro rfl
    simp at hkind

end Starts

/-! ## Queries -/

/-- **Where "or" and "and" are operators.**  Let a token of a query be no value of a comparison.  It
is a bare word with the text "or" or "and", in any case, exactly if that is what is written there and
a double quote stands right behind it; and it is an operator exactly if that is what is written there
and no double quote stands right behind it. -/
theorem operatorWord_lexed {query : String} {ts : List Token} (h : tokenize query = .ok ts) :
    ∀ pre t post, ts = pre ++ t :: post →
      (∀ s ∈ pre.getLast?, ¬ (s.kind.takesValue = true ∧ t.follows s = true)) →
        (t.kind = .word ∧ IsOperatorWord t.text.toList ↔
            IsOperatorWord (query.toList.extract t.start t.stop)
              ∧ query.toList[t.stop]? = some '"')
          ∧ (t.kind = .and ∨ t.kind = .or ↔
            IsOperatorWord (query.toList.extract t.start t.stop)
              ∧ query.toList[t.stop]? ≠ some '"') := by
  intro pre t post hts hvalue
  obtain ⟨value, before, c, more, rest, hreached, hstart, hbegins⟩ :=
    Reached.start.cuts (cuts_of_tokenize h (t := t) (by simp [hts])) rfl hts
  rw [List.nil_append] at hreached
  obtain rfl : value = false := by
    refine hreached.value_eq_false fun s hs hadjacent => hvalue s hs ⟨hadjacent.1, ?_⟩
    rw [Token.follows, hbegins.start_eq, hadjacent.2, beq_self_eq_true]
  have hnext : query.toList[t.stop]? = rest.head? := by
    rw [← hbegins.drop_stop, List.head?_drop]
  have hspells := hbegins.spells
  rw [hbegins.extract_eq, hnext]
  by_cases hword : IsOperatorWord (c :: more)
  · obtain ⟨hiff, hoperator⟩ := itemAt_operatorWord_iff hword hspells hstart
    rw [(hspells.of_operatorWord hword).1, hiff, hoperator]
    simp [hword]
  · have hother := mt hspells.isOperatorWord hword
    rw [not_or] at hother
    exact ⟨iff_of_false hother.1 fun h => hword h.1, iff_of_false hother.2 fun h => hword h.1⟩

/-- Before a parenthesis, at the end of a query, and before a quote. -/
theorem operatorWords_lexed :
    let text := "a oR(b)AND or\"c\""
    ∃ ts, tokenize text = .ok ts
      ∧ (∃ t ∈ ts, t.text = "oR" ∧ (t.kind = .and ∨ t.kind = .or))
      ∧ (∃ t ∈ ts, t.text = "AND" ∧ (t.kind = .and ∨ t.kind = .or))
      ∧ ∃ t ∈ ts, t.text = "or" ∧ t.kind = .word := by
  intro text
  have htokens : (tokenize text).toOption = some [⟨.word, "a", 0, 1⟩, ⟨.or, "oR", 2, 4⟩,
      ⟨.opening, "(", 4, 5⟩, ⟨.word, "b", 5, 6⟩, ⟨.closing, ")", 6, 7⟩, ⟨.and, "AND", 7, 10⟩,
      ⟨.word, "or", 11, 13⟩, ⟨.quoted, "c", 13, 16⟩] := by
    decide +kernel
  have hok := eq_ok_of_toOption htokens
  have hlexed := operatorWord_lexed hok
  obtain ⟨-, hor⟩ := hlexed [⟨.word, "a", 0, 1⟩] ⟨.or, "oR", 2, 4⟩ _ rfl (by decide)
  obtain ⟨-, hand⟩ := hlexed [⟨.word, "a", 0, 1⟩, ⟨.or, "oR", 2, 4⟩, ⟨.opening, "(", 4, 5⟩,
    ⟨.word, "b", 5, 6⟩, ⟨.closing, ")", 6, 7⟩] ⟨.and, "AND", 7, 10⟩ _ rfl (by decide)
  obtain ⟨hword, -⟩ := hlexed [⟨.word, "a", 0, 1⟩, ⟨.or, "oR", 2, 4⟩, ⟨.opening, "(", 4, 5⟩,
    ⟨.word, "b", 5, 6⟩, ⟨.closing, ")", 6, 7⟩, ⟨.and, "AND", 7, 10⟩] ⟨.word, "or", 11, 13⟩ _ rfl
    (by decide)
  refine ⟨_, hok, ⟨_, by simp, rfl, hor.mpr ⟨.inl ?_, ?_⟩⟩, ⟨_, by simp, rfl, hand.mpr ⟨.inr ?_, ?_⟩⟩,
    ⟨⟨.word, "or", 11, 13⟩, by simp, rfl, (hword.mpr ⟨.inl ?_, ?_⟩).1⟩⟩
  all_goals decide +kernel

/-- **A double quote right behind it makes an operator word a bare word**, although no comparison
stands before it. -/
theorem quotedOr_is_word :
    ∃ t post, tokenize "or\"a\"" = .ok (t :: post) ∧ t.kind = .word
      ∧ IsOperatorWord t.text.toList := by
  have htokens : (tokenize "or\"a\"").toOption
      = some [⟨.word, "or", 0, 2⟩, ⟨.quoted, "a", 2, 5⟩] := by
    decide +kernel
  exact ⟨_, _, eq_ok_of_toOption htokens, rfl, .inl (by decide)⟩

end CardQuery

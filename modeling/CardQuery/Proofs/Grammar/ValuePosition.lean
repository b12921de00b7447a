import CardQuery.Proofs.Grammar.Faulting
import CardQuery.Proofs.Grammar.Origin
import CardQuery.Proofs.Lexer.Slashes

/-!
# Proofs/Grammar/ValuePosition — what stands right behind an operator

* `startAt_value` — right behind an operator the rules for values decide alone, except where a word
  ends: at the end of the query, at white space and at parentheses.
* `comparison_value_lexed` — so the value of a comparison is the next token, or there is none, and
  only then a value is reported as missing.

A dash, an exclamation mark, an operator word and another operator are characters of a value like
all others there.
-/

namespace CardQuery

open Text

/-! ## What begins a value -/

section Starts

variable {c : Char} {tail chars : List Char} {kind : TokenKind} {n : Nat}

/-- **A value is a word, a quotation or a pattern**, and a word goes on as long as a value may. -/
theorem valueAt_eq_token (h : valueAt c tail = .token kind chars n) :
    kind.isValue = true ∧ (kind = .word → chars = (c :: tail).takeWhile isValueChar) := by
  have hword (h : wordAt c tail = .token kind chars n) :
      kind.isValue = true ∧ (kind = .word → chars = (c :: tail).takeWhile isValueChar) := by
    obtain ⟨rfl, hchars⟩ := wordAt_eq_token h
    exact ⟨rfl, fun _ => hchars⟩
  rw [valueAt] at h
  split at h
  · rw [quotationAt_kind h]
    exact ⟨rfl, fun hkind => by cases hkind⟩
  split at h
  · rcases Start.orElse_eq_token h with h | ⟨-, h⟩
    · obtain ⟨flags, rfl⟩ := patternAt_kind h
      exact ⟨rfl, fun hkind => by cases hkind⟩
    · exact hword h
  · exact hword h

/-- A value begins at every character that may stand in one. -/
theorem valueAt_ne_nothing (hc : isValueChar c = true) : valueAt c tail ≠ .nothing := by
  have hword : wordAt c tail ≠ .nothing := by
    rw [ne_eq, wordAt_eq_nothing_iff, hc]
    nofun
  have hquote : c ≠ '"' := by
    rintro rfl
    cases hc
  rw [valueAt, if_neg (by simpa using hquote)]
  split
  · exact fun h => hword (Start.orElse_eq_nothing_iff.mp h).2
  · exact hword

/-- **Right behind an operator the rules for values decide alone**, except where a word ends.  They
leave nothing but broken quotations, and there the other rules find nothing either. -/
theorem startAt_value (before : List Char) (hend : atWordEnd (c :: tail) = false) :
    startAt true before c tail = valueAt c tail := by
  rcases atWordEnd_cons_eq_false_iff.mp hend with hc | rfl
  · rw [startAt, if_pos rfl]
    cases hvalue : valueAt c tail with
    | nothing => exact absurd hvalue (valueAt_ne_nothing hc)
    | _ => rfl
  · exact startAt_quote

/-- **Where a word ends only parentheses begin.** -/
theorem Spells.isParenthesis {text more : List Char} (h : Spells kind text (c :: more))
    (hend : atWordEnd (c :: tail) = true) : kind = .opening ∨ kind = .closing := by
  have hc : isValueChar c = false := isValueChar_of_atWordEnd hend c rfl
  have hother {d : Char} (hd : atWordEnd [d] = false) : c ≠ d := by
    rintro rfl
    cases hend.symm.trans hd
  generalize hlexeme : c :: more = lexeme at h
  cases h with
  | opening => exact .inl rfl
  | closing => exact .inr rfl
  | not | exactName | exactQuotation | quoted | pattern =>
    obtain ⟨rfl, -⟩ := List.cons.inj hlexeme
    exact absurd rfl (hother (by decide))
  | and hword | or hword =>
    subst hlexeme
    exact absurd (List.cons.inj hword).1 (toLower_ne_of_isValueChar hc (by decide))
  | word _ hall =>
    subst hlexeme
    cases hc.symm.trans (hall c List.mem_cons_self)
  | @comparison name op hstart hname hne =>
    obtain ⟨d, name, rfl⟩ := List.exists_cons_of_ne_nil hne
    obtain ⟨rfl, -⟩ := List.cons.inj hlexeme
    cases hc.symm.trans (isValueChar_of_isNameStart (hstart c rfl))

end Starts

/-! ## Tokens behind an operator -/

/-- **The value of a comparison is cut off right behind its operator**, unless a word ends there. -/
theorem Cuts.exists_value {before s : List Char} {place : Nat} {ts : List Token}
    (h : Cuts true before place s ts) (hend : atWordEnd s = false) :
    ∃ v us, ts = v :: us ∧ v.start = place ∧ v.kind.isValue = true
      ∧ (v.kind = .word → v.text.toList = s.takeWhile isValueChar) := by
  cases h with
  | done => cases hend
  | gap _ hgap _ =>
    rw [atWordEnd, isBlank_of_isGap hgap] at hend
    cases hend
  | token hstart _ _ =>
    rw [startAt_value before hend] at hstart
    obtain ⟨hkind, hchars⟩ := valueAt_eq_token hstart
    refine ⟨_, _, rfl, rfl, hkind, fun hword => ?_⟩
    rw [String.toList_ofList]
    exact hchars hword

/-- **The next token stands right behind an operator or a word ends there.** -/
theorem Cuts.value_position {text : List Char} {ts pre post : List Token} {t : Token}
    (h : Cuts false [] 0 text ts) (hts : ts = pre ++ t :: post) (ht : t.kind.takesValue = true) :
    (atWordEnd (text.drop t.stop) = true →
        ∀ u ∈ ts, u.start = t.stop → u.kind = .opening ∨ u.kind = .closing)
      ∧ (atWordEnd (text.drop t.stop) = false →
        ∃ v us, post = v :: us ∧ v.start = t.stop ∧ v.kind.isValue = true
          ∧ (v.kind = .word → v.text.toList = (text.drop t.stop).takeWhile isValueChar)) := by
  obtain ⟨near, c, more, rest, hbegins, hpost⟩ := h.behind rfl hts
  have hdrop : text.drop t.stop = rest := hbegins.drop_stop
  rw [ht] at hpost
  rw [hdrop]
  refine ⟨fun hend u hu hstart => ?_, hpost.exists_value⟩
  obtain ⟨near', d, more', rest', hu⟩ := h.begins rfl u hu
  have hrest : rest = d :: (more' ++ rest') := by
    rw [← hdrop, ← hstart]
    exact hu.drop_start
  rw [hrest] at hend
  exact hu.spells.isParenthesis hend

namespace Grammar

open Query

/-- **A value is missing behind the comparison that asks for it**: the next token is not its value,
or there is none. -/
theorem Fails.of_missingValue {ts : List Token} {f : Failure} {s : String} (h : Fails ts f)
    (hcause : f.cause = .problem (.missingValue s)) :
    ∃ t rest, ts = t :: rest ∧ t.kind.takesValue = true ∧ t.text = s
      ∧ f.place = (rest.head?.map Token.place).getD .queryEnd
      ∧ ∀ v ∈ rest.head?, v.kind.isValue = true → v.start ≠ t.stop := by
  cases h with
  | misses hm => cases hm with
    | _ => cases hcause
  | refuses hr => cases hr with
    | noValue ht _ _ =>
      cases hcause
      exact ⟨_, [], rfl, by rw [ht]; rfl, rfl, rfl, nofun⟩
    | @notValue t v ts _ _ _ ht _ _ hv =>
      cases hcause
      refine ⟨t, v :: ts, rfl, by rw [ht]; rfl, rfl, rfl, fun u hu hvalue hstart => ?_⟩
      cases Option.mem_some.mp hu
      exact hv ⟨hvalue, hstart⟩
    | pattern _ _ => cases isOfValue_of_ofRefusal hcause
    | value _ htyped =>
      obtain rfl : _ = Cause.problem (.missingValue s) := hcause
      cases isOfValue_of_ofToken htyped
    | _ => cases hcause
  | _ => cases hcause

/-- Tokens that lack a value lack it behind a comparison. -/
theorem Rejects.of_missingValue {ts : List Token} {f : Failure} {s : String} (h : Rejects ts f)
    (hcause : f.cause = .problem (.missingValue s)) :
    ∃ us t rest, ts = us ++ t :: rest ∧ t.kind.takesValue = true ∧ t.text = s
      ∧ f.place = (rest.head?.map Token.place).getD .queryEnd
      ∧ ∀ v ∈ rest.head?, v.kind.isValue = true → v.start ≠ t.stop := by
  rcases h.exists_fails with rfl | ⟨us, vs, rfl, hfails⟩
  · cases hcause
  · obtain ⟨t, rest, rfl, hmissing⟩ := hfails.of_missingValue hcause
    exact ⟨us, t, rest, rfl, hmissing⟩

/-- **The value of a comparison is cut off by rules of its own.**  Where a word ends right behind
the operator no word, quotation or pattern begins; anywhere else one does, as the next token, and if
it is a word it goes on to the next white space, parenthesis or quote.  A value is reported as
missing only behind an operator where a word ends, and at the token that comes next instead. -/
theorem comparison_value_lexed {text : String} {ts : List Token} (h : tokenize text = .ok ts) :
    (∀ pre t post, ts = pre ++ t :: post → t.kind.takesValue = true →
        (atWordEnd (text.toList.drop t.stop) = true →
          ∀ u ∈ ts, u.start = t.stop → u.kind = .opening ∨ u.kind = .closing)
        ∧ (atWordEnd (text.toList.drop t.stop) = false →
          ∃ v us, post = v :: us ∧ v.start = t.stop ∧ v.kind.isValue = true
            ∧ (v.kind = .word →
              v.text.toList = (text.toList.drop t.stop).takeWhile isValueChar)))
      ∧ ∀ r s, parse text = .error (.rejected r) → r.problem = .missingValue s →
        ∃ pre t post, ts = pre ++ t :: post ∧ t.kind.takesValue = true ∧ t.text = s
          ∧ atWordEnd (text.toList.drop t.stop) = true
          ∧ r.place = (post.head?.map Token.place).getD .queryEnd := by
  have hvalues (pre t post) (hts : ts = pre ++ t :: post) (ht : t.kind.takesValue = true) :=
    (cuts_of_tokenize h (t := t) (by simp [hts])).value_position hts ht
  refine ⟨hvalues, fun r s hr hs => ?_⟩
  rcases parse_reports_iff.mp hr with herror | ⟨ts', f, p, hts', hf, hp, rfl⟩
  · cases h.symm.trans herror
  · cases h.symm.trans hts'
    obtain rfl : p = .missingValue s := hs
    obtain ⟨pre, t, post, hts, ht, htext, hplace, hnone⟩ := hf.of_missingValue hp
    refine ⟨pre, t, post, hts, ht, htext, ?_, hplace⟩
    rw [← Bool.not_eq_false]
    intro hend
    obtain ⟨v, us, rfl, hstart, hkind, -⟩ := (hvalues pre t post hts ht).2 hend
    exact hnone v rfl hkind hstart

/-- A value that looks like a dash, an exact name and an operator, and a comparison without one. -/
theorem dashedValue_lexed :
    let text := "a:-!b:or t:"
    ∃ ts, tokenize text = .ok ts
      ∧ (∃ t v us, ts = t :: v :: us ∧ t.kind.takesValue = true ∧ v.start = t.stop
        ∧ v.kind.isValue = true ∧ v.text = "-!b:or")
      ∧ ∃ r t, parse text = .error (.rejected r) ∧ r.problem = .missingValue "t:" ∧ t ∈ ts
        ∧ t.text = "t:" ∧ atWordEnd (text.toList.drop t.stop) = true := by
  intro text
  have htokens : (tokenize text).toOption = some [⟨.comparison "a" .colon, "a:", 0, 2⟩,
      ⟨.word, "-!b:or", 2, 8⟩, ⟨.comparison "t" .colon, "t:", 9, 11⟩] := by decide +kernel
  have hok := eq_ok_of_toOption htokens
  have hreport : parse text = .error (.rejected ⟨.missingValue "t:", .queryEnd, text⟩) := by
    rw [parse_of_tokens hok]
    rfl
  obtain ⟨hvalues, hmissing⟩ := comparison_value_lexed hok
  obtain ⟨-, hvalue⟩ := hvalues [] _ _ rfl rfl
  obtain ⟨v, us, hv, hstart, hkind, -⟩ := hvalue (by decide +kernel)
  obtain ⟨rfl, -⟩ := List.cons.inj hv
  obtain ⟨pre, t, post, hts, -, htext, hend, -⟩ := hmissing _ _ hreport rfl
  exact ⟨_, hok, ⟨_, _, _, rfl, rfl, hstart, hkind, rfl⟩, _, t, hreport, rfl, by simp [hts], htext,
    hend⟩

end Grammar

end CardQuery

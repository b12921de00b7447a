import CardQuery.Proofs.Grammar.Reading
import CardQuery.Proofs.Lexer.Enclosing

/-!
# Proofs/Grammar/Composition — composing texts composes queries

* `parse_composed` — the texts of queries, put in parentheses and joined by an operator, are a text
  of the queries joined by it.

A group has the tokens of its text at later places (`Cuts.group`), and a derivation does not go by
places: it only asks whether a value stands right behind an operator (`Derives.shift`).
-/

namespace CardQuery

open Text

namespace Grammar

/-! ## Later tokens -/

theorem Compares.shift {t v : Token} {field : Field} {op : CompareOp} {value : Value}
    (h : Compares t v field op value) (k : Nat) :
    Compares (t.shift k) (v.shift k) field op value where
  named := h.named
  admitted := h.admitted
  isValue := h.isValue
  adjacent := congrArg (k + ·) h.adjacent
  typed := h.typed

/-- **Tokens derive the same query at later places.** -/
theorem Derives.shift {l : Level} {ts : List Token} {q : Query} (h : Derives l ts q) (k : Nat) :
    Derives l (ts.map (Token.shift k)) q := by
  induction h with
  | ofBoth _ ih => exact .ofBoth ih
  | ofNegation _ ih => exact .ofNegation ih
  | ofTerm _ ih => exact .ofTerm ih
  | or _ ht _ ihp ihq =>
    rw [List.map_append, List.map_cons]
    exact .or ihp ht ihq
  | and _ ht _ ihp ihq =>
    rw [List.map_append, List.map_cons]
    exact .and ihp ht ihq
  | beside _ _ ihp ihq =>
    rw [List.map_append]
    exact .beside ihp ihq
  | not ht _ ih => exact .not ht ih
  | group ht _ hc ih =>
    rw [List.map_append, List.map_cons]
    exact .group ht ih hc
  | exactName ht => exact .exactName ht
  | bare ht => exact .bare ht
  | pattern ht hp => exact .pattern ht hp
  | compare hc hn => exact .compare (hc.shift k) hn
  | colorless hc hn => exact .colorless (hc.shift k) hn

/-- A group is a term. -/
theorem Derives.groupTokens {ts : List Token} {q : Query} (h : Derives .either ts q)
    (place n : Nat) : Derives .term (groupTokens place n ts) q :=
  .group rfl (h.shift (place + 1)) rfl

end Grammar

/-! ## Operators between groups -/

namespace Cuts

variable {before tail : List Char} {place : Nat} {ts : List Token}

theorem space {value : Bool} (h : Cuts false (' ' :: before) (place + 1) tail ts) :
    Cuts value before place (' ' :: tail) ts := .gap (startAt_eq_nothing_iff.mpr (.inl rfl)) rfl h

theorem dash (h : Cuts false ('-' :: before) (place + 1) tail ts) :
    Cuts false before place ('-' :: tail) (⟨.not, "-", place, place + 1⟩ :: ts) := by
  have hdash : Cuts false before place ('-' :: ([] ++ tail)) _ := .token rfl .not h
  exact hdash

theorem wordOr (h : Cuts false ('R' :: 'O' :: before) (place + 2) (' ' :: tail) ts) :
    Cuts false before place ('O' :: 'R' :: ' ' :: tail) (⟨.or, "OR", place, place + 2⟩ :: ts) := by
  have hword : Cuts false before place ('O' :: (['R'] ++ ' ' :: tail)) _ := .token rfl (.or rfl) h
  exact hword

theorem wordAnd (h : Cuts false ('D' :: 'N' :: 'A' :: before) (place + 3) (' ' :: tail) ts) :
    Cuts false before place ('A' :: 'N' :: 'D' :: ' ' :: tail)
      (⟨.and, "AND", place, place + 3⟩ :: ts) := by
  have hword : Cuts false before place ('A' :: (['N', 'D'] ++ ' ' :: tail)) _ :=
    .token rfl (.and rfl) h
  exact hword

end Cuts

/-! ## Texts -/

namespace Query

open Grammar

/-- The text of a query is cut into its tokens, and they derive it. -/
theorem exists_tokens_of_parse {text : String} {q : Query} (h : parse text = .ok q) :
    ∃ ts, tokenize text = .ok ts ∧ Cuts false [] 0 text.toList ts ∧ Derives .either ts q := by
  obtain ⟨ts, htokens, hq⟩ := parse_eq_ok.mp h
  have hderives := ofTokens_eq_ok_iff.mp hq
  obtain ⟨t, rest, rfl, -⟩ := hderives.startsTerm
  exact ⟨t :: rest, htokens, cuts_of_tokenize htokens List.mem_cons_self, hderives⟩

theorem cuts_of_parse {text : String} {q : Query} (h : parse text = .ok q) :
    ∃ ts, Cuts false [] 0 text.toList ts ∧ Derives .either ts q := by
  obtain ⟨ts, -, hts⟩ := exists_tokens_of_parse h
  exact ⟨ts, hts⟩

/-- A text is a query if its evaluation says so. -/
theorem exists_of_toBool (text : String) (h : (parse text).toBool = true) :
    ∃ q, parse text = .ok q := by
  rcases hq : parse text with f | q
  · rw [hq] at h
    cases h
  · exact ⟨q, rfl⟩

/-- **A text that is cut into tokens of a query is a text of it.** -/
theorem parse_of_cuts {text : String} {c : Char} {tail : List Char} {ts : List Token} {q : Query}
    (htext : text.toList = c :: tail) (hc : isBlank c = false)
    (hcuts : Cuts false [] 0 (c :: tail) ts) (hq : Derives .either ts q) : parse text = .ok q := by
  have hblank : ¬ isBlankText text = true := by
    simp [isBlankText, htext, hc]
  refine parse_eq_ok.mpr ⟨ts, tokenize_eq_ok_iff.mpr ?_, ofTokens_eq_ok_iff.mpr hq⟩
  rw [if_neg hblank, htext]
  exact hcuts

/-- **Composing texts composes queries.** -/
theorem parse_composed {s t : String} {p q : Query} (hs : parse s = .ok p) (ht : parse t = .ok q) :
    parse ("(" ++ s ++ ")") = .ok p
      ∧ parse ("(" ++ s ++ ") OR (" ++ t ++ ")") = .ok (.or p q)
      ∧ parse ("(" ++ s ++ ") (" ++ t ++ ")") = .ok (.and p q)
      ∧ parse ("(" ++ s ++ ") AND (" ++ t ++ ")") = .ok (.and p q)
      ∧ parse ("-(" ++ s ++ ")") = .ok (.not p) := by
  obtain ⟨ss, hscuts, hp⟩ := cuts_of_parse hs
  obtain ⟨us, htcuts, hq⟩ := cuts_of_parse ht
  have hleft (place : Nat) : Derives .both (groupTokens place s.toList.length ss) p :=
    .ofNegation (.ofTerm (hp.groupTokens place _))
  have hright (place : Nat) : Derives .negation (groupTokens place t.toList.length us) q :=
    .ofTerm (hq.groupTokens place _)
  refine ⟨?_, ?_, ?_, ?_, ?_⟩
  · refine parse_of_cuts (by simp) (by decide) (hscuts.lastGroup [] 0) ?_
    exact .ofBoth (hleft 0)
  · refine parse_of_cuts (by simp) (by decide)
      (hscuts.group (.space (.wordOr (.space (htcuts.lastGroup _ _))))) ?_
    exact .or (.ofBoth (hleft 0)) rfl (.ofNegation (hright _))
  · refine parse_of_cuts (by simp) (by decide)
      (hscuts.group (.space (htcuts.lastGroup _ _))) ?_
    exact .ofBoth (.beside (hleft 0) (hright _))
  · refine parse_of_cuts (by simp) (by decide)
      (hscuts.group (.space (.wordAnd (.space (htcuts.lastGroup _ _))))) ?_
    exact .ofBoth (.and (hleft 0) rfl (hright _))
  · refine parse_of_cuts (by simp) (by decide) (.dash (hscuts.lastGroup _ _)) ?_
    exact .ofBoth (.ofNegation (.not rfl (.ofTerm (hp.groupTokens _ _))))

/-- A pattern that opens a text, a missing space before a parenthesis and a comparison at the end of
a text, each of them in parentheses. -/
theorem mixed_query_composed :
    ∃ p q, parse "/a b/i -c(d)" = .ok p ∧ parse "-/x/ or pow>-1" = .ok q
      ∧ parse ("(" ++ "/a b/i -c(d)" ++ ") AND (" ++ "-/x/ or pow>-1" ++ ")") = .ok (.and p q) := by
  have hs : (parse "/a b/i -c(d)").toBool = true := by decide +kernel
  have ht : (parse "-/x/ or pow>-1").toBool = true := by decide +kernel
  rcases hp : parse "/a b/i -c(d)" with _ | p
  · rw [hp] at hs
    cases hs
  rcases hq : parse "-/x/ or pow>-1" with _ | q
  · rw [hq] at ht
    cases ht
  obtain ⟨-, -, -, hand, -⟩ := parse_composed hp hq
  exact ⟨p, q, rfl, rfl, hand⟩

end Query

end CardQuery

import CardQuery.Proofs.Explanation.Outline
import CardQuery.Proofs.Grammar.Composition
import CardQuery.Proofs.Grammar.Stopping
import CardQuery.Proofs.Lexer.Slashes

/-!
# Proofs/Grammar/Disjunction — texts of queries joined by the word for "or"

* `parse_alternatives` — two texts of queries with the word between them, in any case, are a text of
  their alternatives put together.
* `parse_misplacedOr` — where an operand is missing on either side of the word, the word is reported,
  or the one that stands in the operand's place.

Without parentheses the texts keep their tokens as well (`Cuts.placed`): a pattern may begin behind
an operator word, and a blank ends what stands before it.  But the grammar joins to the left, so the
joined query is bracketed otherwise than its parts, and only its alternatives are theirs
(`Derives.exists_either`).
-/

namespace CardQuery

open Text

/-! ## Alternatives -/

namespace Query

/-- How many disjunctions a query consists of. -/
def orCount : Query → Nat
  | and left right => left.orCount + right.orCount
  | or left right => left.orCount + right.orCount + 1
  | not operand => operand.orCount
  | _ => 0

end Query

namespace Grammar

open Query

/-- **Tokens of two queries with an `OR` between them derive the alternatives of both.**  The
alternatives of the second query are joined to the first one by one. -/
theorem Derives.exists_either {ts us : List Token} {t : Token} {p q : Query}
    (hp : Derives .either ts p) (ht : t.kind = .or) (hq : Derives .either us q) :
    ∃ r, Derives .either (ts ++ t :: us) r
      ∧ r.operands .or = p.operands .or ++ q.operands .or
      ∧ r.orCount = p.orCount + q.orCount + 1 := by
  generalize hl : Level.either = l at hq
  induction hq with
  | @ofBoth us q hd _ => exact ⟨.or p q, .or hp ht hd, rfl, rfl⟩
  | @or us vs t' q q' _ ht' hd ih _ =>
    obtain ⟨r, hr, hoperands, hcount⟩ := ih rfl
    refine ⟨.or r q', ?_, ?_, ?_⟩
    · have hjoined := Derives.or hr ht' hd
      rwa [List.append_assoc] at hjoined
    · change r.operands .or ++ q'.operands .or
        = p.operands .or ++ (q.operands .or ++ q'.operands .or)
      rw [hoperands, List.append_assoc]
    · rw [orCount, orCount]
      omega
  | _ => cases hl

end Grammar

/-! ## The word between two texts -/

namespace Cuts

/-- The word for "or", in any case, where a word ends behind it. -/
theorem orWord {before word tail : List Char} {place : Nat} {ts : List Token}
    (hword : word.map Char.toLower = ['o', 'r']) (hend : atWordEnd tail = true)
    (h : Cuts false (word.reverse ++ before) (place + word.length) tail ts) :
    Cuts false before place (word ++ tail)
      (⟨.or, String.ofList word, place, place + word.length⟩ :: ts) := by
  rcases word with _ | ⟨c, more⟩
  · cases hword
  have hplace : place + 1 + more.length = place + (c :: more).length := by
    rw [List.length_cons]
    omega
  have hbehind : Cuts false (more.reverse ++ c :: before) (place + 1 + more.length) tail ts := by
    rw [hplace]
    simpa using h
  rw [← hplace]
  exact .token (itemAt_orWord before hword hend) (.or hword) hbehind

/-- The text of a query with a blank and other tokens behind it. -/
theorem andThen {s rest : List Char} {ts us : List Token} (h : Cuts false [] 0 s ts)
    (hmark : endsInMark ts = false)
    (hrest : Cuts false (' ' :: s.reverse) (s.length + 1) rest us) :
    Cuts false [] 0 (s ++ ' ' :: rest) (ts.map (Token.shift 0) ++ us) := by
  refine h.placed 0 fresh_nil rfl (.inr hmark) fun value => .space ?_
  simpa using hrest

/-- The text of a query behind an operator word and a blank. -/
theorem behindWord {s word near : List Char} {ts : List Token} (h : Cuts false [] 0 s ts)
    (hword : IsOperatorWord word) (hnear : atWordEnd near = true) (place : Nat) :
    Cuts false (word.reverse ++ near) place (' ' :: s) (ts.map (Token.shift (place + 1))) := by
  refine .space ?_
  have hfresh := fresh_operatorWord (c := ' ') rfl hword hnear
  have hend : atWordEnd [] = true := rfl
  have hplaced := h.placed (place + 1) hfresh hend (.inl nofun) fun value => .done
  simpa using hplaced

end Cuts

namespace Query

open Grammar

/-- Whether a text ends with an exclamation mark on its own, for its last token. -/
def lastTokenIsMark (text : String) : Bool := (tokenize text).toOption.any endsInMark

theorem endsInMark_of_tokens {text : String} {ts : List Token} (htokens : tokenize text = .ok ts)
    (hmark : lastTokenIsMark text = false) : endsInMark ts = false := by
  rw [lastTokenIsMark, htokens] at hmark
  exact hmark

section Texts

variable {s t : String} {p q : Query}

/-- **The word for "or" puts alternatives together.**  Two texts of queries, the first of which does
not end with a mark, with the word between them in any case are a text of a query with the
alternatives of both, and with one disjunction more than they have. -/
theorem parse_alternatives (word : String) (hs : parse s = .ok p) (ht : parse t = .ok q)
    (hmark : lastTokenIsMark s = false) (hword : word.toList.map Char.toLower = ['o', 'r']) :
    ∃ r, parse (s ++ " " ++ word ++ " " ++ t) = .ok r
      ∧ r.operands .or = p.operands .or ++ q.operands .or
      ∧ r.orCount = p.orCount + q.orCount + 1 := by
  obtain ⟨ts, htokens, hscuts, hp⟩ := exists_tokens_of_parse hs
  obtain ⟨us, htcuts, hq⟩ := cuts_of_parse ht
  have hlast := endsInMark_of_tokens htokens hmark
  have hjoined := hscuts.andThen hlast
    (.orWord hword rfl (htcuts.behindWord (.inl hword) rfl _))
  obtain ⟨r, hr, halternatives⟩ :=
    (hp.shift 0).exists_either (t := ⟨.or, _, _, _⟩) rfl (hq.shift _)
  refine ⟨r, parse_eq_ok.mpr ⟨_, Cuts.tokenize_eq ?_, ofTokens_eq_ok_iff.mpr hr⟩, halternatives⟩
  simpa using hjoined

/-- A disjunction in parentheses, and a pattern that is no longer at the start. -/
theorem groupAndPattern_alternatives :
    ∃ p q r, parse "a or (b OR -c)" = .ok p ∧ parse "/x/ d or !e" = .ok q
      ∧ parse ("a or (b OR -c)" ++ " " ++ "oR" ++ " " ++ "/x/ d or !e") = .ok r
      ∧ r.operands .or = p.operands .or ++ q.operands .or
      ∧ r.orCount = p.orCount + q.orCount + 1 := by
  obtain ⟨p, hp⟩ := exists_of_toBool "a or (b OR -c)" (by decide +kernel)
  obtain ⟨q, hq⟩ := exists_of_toBool "/x/ d or !e" (by decide +kernel)
  obtain ⟨r, hr⟩ := parse_alternatives "oR" hp hq (by decide +kernel) rfl
  exact ⟨p, q, r, hp, hq, hr⟩

/-- A report of an unexpected token at a place of a text. -/
def UnexpectedAt (text : String) (place : Nat) : Prop :=
  ∃ r, parse text = .error (.rejected r) ∧ r.diagnostic.kind = .unexpectedToken
    ∧ r.diagnostic.start = place

/-- Tokens that are rejected at one of them make a report there. -/
theorem unexpectedAt_of_rejects {text : String} {ts rest : List Token} {problem : Problem}
    {t : Token} (htokens : tokenize text = .ok ts) (h : Rejects ts ⟨.problem problem, t.place, rest⟩)
    (hkind : problem.kind = .unexpectedToken) (hplace : t.start ≤ text.length) :
    UnexpectedAt text t.start := by
  refine ⟨⟨problem, t.place, text⟩, ?_, hkind, ?_⟩
  · rw [parse_of_tokens htokens]
    exact adapt_eq_error.mpr ⟨_, ofTokens_eq_error_iff.mpr h, rfl⟩
  · simp only [Rejection.diagnostic, Token.place, Diagnostic.make]
    omega

/-- The word for "or" in capitals, at a place. -/
def orAt (place : Nat) : Token := ⟨.or, "OR", place, place + 2⟩

theorem map_toLower_or : ['O', 'R'].map Char.toLower = ['o', 'r'] := rfl

/-- The word cannot begin a text. -/
theorem unexpectedAt_leadingOr (hs : parse s = .ok p) : UnexpectedAt ("OR " ++ s) 0 := by
  obtain ⟨ts, hcuts, -⟩ := cuts_of_parse hs
  have hjoined : Cuts false [] 0 _ _ :=
    .orWord map_toLower_or rfl (hcuts.behindWord (.inl map_toLower_or) rfl _)
  have hstops : Grammar.Stops .term (orAt 0 :: ts.map (Token.shift 3)) _ :=
    .refuses (.connective (.inr rfl))
  have hkind : (orAt 0).kind ≠ .not := by decide
  have hrejects := Rejects.stops (.ofBoth (.ofNegation (.ofTerm hkind hstops)))
  refine unexpectedAt_of_rejects (Cuts.tokenize_eq ?_) hrejects rfl (Nat.zero_le _)
  simpa [orAt] using hjoined

/-- Behind the word at the end of a text an operand is missing, and the word itself is reported. -/
theorem unexpectedAt_trailingOr (hs : parse s = .ok p) (hmark : lastTokenIsMark s = false) :
    UnexpectedAt (s ++ " OR") (s.length + 1) := by
  obtain ⟨ts, htokens, hcuts, hp⟩ := exists_tokens_of_parse hs
  have hend : atWordEnd [] = true := rfl
  have hjoined := hcuts.andThen (endsInMark_of_tokens htokens hmark)
    (.orWord map_toLower_or hend .done)
  have hrejects := Rejects.stops (.orMisses (hp.shift 0) (t := orAt (s.length + 1)) rfl .atEnd)
  refine unexpectedAt_of_rejects (Cuts.tokenize_eq ?_) hrejects rfl ?_
  · simpa [orAt, String.length_toList] using hjoined
  · rw [String.length_append]
    exact Nat.add_le_add_left (by decide) _

/-- Of two words in a row the second one stands in the place of an operand. -/
theorem unexpectedAt_doubledOr (hs : parse s = .ok p) (ht : parse t = .ok q)
    (hmark : lastTokenIsMark s = false) : UnexpectedAt (s ++ " OR OR " ++ t) (s.length + 4) := by
  obtain ⟨ts, htokens, hscuts, hp⟩ := exists_tokens_of_parse hs
  obtain ⟨us, htcuts, -⟩ := cuts_of_parse ht
  have hjoined := hscuts.andThen (endsInMark_of_tokens htokens hmark) (.orWord map_toLower_or rfl
    (.space (.orWord map_toLower_or rfl (htcuts.behindWord (.inl map_toLower_or) rfl _))))
  have hmisses : Misses (orAt (s.length + 1))
      (orAt (s.length + 4) :: us.map (Token.shift (s.length + 7))) _ := .before rfl
  have hrejects := Rejects.stops (.orMisses (hp.shift 0) rfl hmisses)
  refine unexpectedAt_of_rejects (Cuts.tokenize_eq ?_) hrejects rfl ?_
  · simpa [orAt, String.length_toList] using hjoined
  · rw [String.length_append, String.length_append, Nat.add_assoc]
    exact Nat.add_le_add_left (Nat.le_add_right_of_le (by decide)) _

/-- **A misplaced "or" is reported where it is**: at the start of a text, at the end of it, and the
second of two. -/
theorem parse_misplacedOr (hs : parse s = .ok p) (ht : parse t = .ok q)
    (hmark : lastTokenIsMark s = false) :
    UnexpectedAt ("OR " ++ s) 0 ∧ UnexpectedAt (s ++ " OR") (s.length + 1)
      ∧ UnexpectedAt (s ++ " OR OR " ++ t) (s.length + 4) :=
  ⟨unexpectedAt_leadingOr hs, unexpectedAt_trailingOr hs hmark,
    unexpectedAt_doubledOr hs ht hmark⟩

/-- A negation and a pattern with the word around them. -/
theorem negationAndPattern_misplacedOr :
    UnexpectedAt ("OR " ++ "b -a") 0 ∧ UnexpectedAt ("b -a" ++ " OR") ("b -a".length + 1)
      ∧ UnexpectedAt ("b -a" ++ " OR OR " ++ "/x/") ("b -a".length + 4) := by
  obtain ⟨p, hp⟩ := exists_of_toBool "b -a" (by decide +kernel)
  obtain ⟨q, hq⟩ := exists_of_toBool "/x/" (by decide +kernel)
  exact parse_misplacedOr hp hq (by decide +kernel)

end Texts

end Query

end CardQuery

import CardQuery.Proofs.Grammar.Composition
import CardQuery.Proofs.Lexer.Respacing
import Mathlib.Tactic.IntervalCases

/-!
# Proofs/Grammar/Respacing — the gaps of a query do not matter

* `Derives.relocated` — tokens derive the same query at other places, if those that stand side by side
  still do.
* `parse_respaced` — so the text of a query without backslashes is a text of the same query with any
  other gaps between, before and behind its tokens.
-/

namespace CardQuery

open Text

/-! ## Derivations -/

section Places

variable {t u : Token} {ps qs : List (Token × Token)} {p : Token × Token}

theorem Relocates.left (h : Relocates (ps ++ qs)) : Relocates ps where
  same p hp := h.same p (List.mem_append_left qs hp)
  adjacent := h.adjacent.left_of_append

theorem Relocates.right (h : Relocates (ps ++ qs)) : Relocates qs where
  same p hp := h.same p (List.mem_append_right ps hp)
  adjacent := h.adjacent.right_of_append

theorem Relocates.head (h : Relocates (p :: ps)) : p.2.kind = p.1.kind ∧ p.2.text = p.1.text :=
  h.same p List.mem_cons_self

theorem Relocates.tail (h : Relocates (p :: ps)) : Relocates ps := by
  have hsplit : Relocates ([p] ++ ps) := h
  exact hsplit.right

end Places

namespace Grammar

open Query

/-- A comparison has its value at another place too. -/
theorem Compares.relocated {t v : Token × Token} {field : Field} {op : CompareOp} {value : Value}
    (h : Compares t.1 v.1 field op value) (hps : Relocates [t, v]) :
    Compares t.2 v.2 field op value where
  named := by
    rw [hps.head.1]
    exact h.named
  admitted := h.admitted
  isValue := by
    rw [hps.tail.head.1]
    exact h.isValue
  adjacent := (List.isChain_cons_cons.mp hps.adjacent).1 h.adjacent
  typed := by
    rw [← h.typed, Value.ofToken, Value.ofToken, hps.tail.head.1, hps.tail.head.2]

/-- **Tokens derive the same query at other places.** -/
theorem Derives.relocated {l : Level} {ts : List Token} {q : Query} (h : Derives l ts q)
    {ps : List (Token × Token)} (hts : ps.map Prod.fst = ts) (hps : Relocates ps) :
    Derives l (ps.map Prod.snd) q := by
  induction h generalizing ps with
  | ofBoth _ ih => exact .ofBoth (ih hts hps)
  | ofNegation _ ih => exact .ofNegation (ih hts hps)
  | ofTerm _ ih => exact .ofTerm (ih hts hps)
  | or _ ht _ ihp ihq =>
    obtain ⟨ps, qs, rfl, hp, hqs⟩ := List.map_eq_append_iff.mp hts
    obtain ⟨s, qs, rfl, rfl, hq⟩ := List.map_eq_cons_iff.mp hqs
    rw [List.map_append, List.map_cons]
    exact .or (ihp hp hps.left) (hps.right.head.1.trans ht) (ihq hq hps.right.tail)
  | and _ ht _ ihp ihq =>
    obtain ⟨ps, qs, rfl, hp, hqs⟩ := List.map_eq_append_iff.mp hts
    obtain ⟨s, qs, rfl, rfl, hq⟩ := List.map_eq_cons_iff.mp hqs
    rw [List.map_append, List.map_cons]
    exact .and (ihp hp hps.left) (hps.right.head.1.trans ht) (ihq hq hps.right.tail)
  | beside _ _ ihp ihq =>
    obtain ⟨ps, qs, rfl, hp, hq⟩ := List.map_eq_append_iff.mp hts
    rw [List.map_append]
    exact .beside (ihp hp hps.left) (ihq hq hps.right)
  | not ht _ ih =>
    obtain ⟨s, ps, rfl, rfl, hp⟩ := List.map_eq_cons_iff.mp hts
    exact .not (hps.head.1.trans ht) (ih hp hps.tail)
  | group ht _ hc ih =>
    obtain ⟨ps, qs, rfl, hps', hqs⟩ := List.map_eq_append_iff.mp hts
    obtain ⟨s, ps, rfl, rfl, hp⟩ := List.map_eq_cons_iff.mp hps'
    obtain ⟨c, qs, rfl, rfl, hnil⟩ := List.map_eq_cons_iff.mp hqs
    obtain rfl := List.map_eq_nil_iff.mp hnil
    rw [List.map_append, List.map_cons]
    exact .group (hps.left.head.1.trans ht) (ih hp hps.left.tail) (hps.right.head.1.trans hc)
  | exactName ht =>
    obtain ⟨s, ps, rfl, rfl, hp⟩ := List.map_eq_cons_iff.mp hts
    obtain rfl := List.map_eq_nil_iff.mp hp
    rw [← hps.head.2]
    exact .exactName (hps.head.1.trans ht)
  | bare ht =>
    obtain ⟨s, ps, rfl, rfl, hp⟩ := List.map_eq_cons_iff.mp hts
    obtain rfl := List.map_eq_nil_iff.mp hp
    rw [← hps.head.2]
    exact .bare (hps.head.1 ▸ ht)
  | pattern ht hmake =>
    obtain ⟨s, ps, rfl, rfl, hp⟩ := List.map_eq_cons_iff.mp hts
    obtain rfl := List.map_eq_nil_iff.mp hp
    rw [← hps.head.2] at hmake
    exact .pattern (hps.head.1.trans ht) hmake
  | compare hc hn =>
    obtain ⟨s, ps, rfl, rfl, hp⟩ := List.map_eq_cons_iff.mp hts
    obtain ⟨v, ps, rfl, rfl, hnil⟩ := List.map_eq_cons_iff.mp hp
    obtain rfl := List.map_eq_nil_iff.mp hnil
    exact .compare (hc.relocated hps) hn
  | colorless hc hn =>
    obtain ⟨s, ps, rfl, rfl, hp⟩ := List.map_eq_cons_iff.mp hts
    obtain ⟨v, ps, rfl, rfl, hnil⟩ := List.map_eq_cons_iff.mp hp
    obtain rfl := List.map_eq_nil_iff.mp hnil
    exact .colorless (hc.relocated hps) hn

end Grammar

/-! ## Texts -/

namespace Query

open Grammar

/-- **The gaps of a query do not matter.**  The text of a query is its tokens, as they are written,
with gaps around them.  If there is no backslash in it, then the tokens with any other gaps around
them are a text of the same query, as long as there is a gap between two tokens exactly where there
was one. -/
theorem parse_respaced {text : String} {q : Query} (h : parse text = .ok q) :
    ∃ ts, tokenize text = .ok ts
      ∧ (∃ gaps, FitAround gaps ts
        ∧ String.ofList (spaced gaps (ts.map (Token.lexeme text.toList))) = text)
      ∧ ('\\' ∉ text.toList → ∀ gaps, FitAround gaps ts →
        parse (String.ofList (spaced gaps (ts.map (Token.lexeme text.toList)))) = .ok q) := by
  obtain ⟨ts, htokens, hcuts, hderives⟩ := exists_tokens_of_parse h
  obtain ⟨t, ts, rfl, -⟩ := hderives.startsTerm
  refine ⟨_, htokens, ?_, fun hplain gaps hfit => ?_⟩
  · have htext : text.toList = List.reverse [] ++ text.toList := rfl
    obtain ⟨gap, gaps, hfit, hspaced, -⟩ := hcuts.exists_gaps htext rfl
    exact ⟨gap :: gaps, hfit, by rw [hspaced, String.ofList_toList]⟩
  · obtain ⟨first, s, htext, hfirst, hplace, hcuts⟩ := hcuts.exists_gap
    obtain ⟨gap, gaps, rfl⟩ := hfit.exists_cons
    have hgap : ∀ c ∈ gap, isGap c = true := (List.forall_mem_cons.mp hfit.areGaps).1
    have hbefore : Alike (first.reverse ++ []) (gap.reverse ++ []) :=
      .edge (by simpa using hfirst) (by simpa using hgap)
    have hwhole : text.toList = (first.reverse ++ []).reverse ++ s := by simpa using htext
    have hrest : '\\' ∉ s := fun hmem => hplain (htext ▸ List.mem_append_right first hmem)
    obtain ⟨u, ps, rfl, -, hps, -, hcuts'⟩ := hcuts.respaced hwhole (by simpa using hplace) hrest
      hbefore hfit (0 + gap.length)
    rw [Bool.false_and, ← Bool.false_and gap.isEmpty] at hcuts'
    have hrespaced := Cuts.ofGap hgap hcuts'
    have hpairs : ((t, u) :: ps).map Prod.fst = t :: ps.map Prod.fst := rfl
    have hq : Derives .either (u :: ps.map Prod.snd) q := hderives.relocated hpairs hps
    refine parse_eq_ok.mpr ⟨_, Cuts.tokenize_eq ?_, ofTokens_eq_ok_iff.mpr hq⟩
    rw [String.toList_ofList]
    exact hrespaced

/-- The tokens of a query with gaps of several kinds. -/
def iceTokens : List Token :=
  [⟨.exactName, "Ice", 0, 5⟩, ⟨.or, "OR", 6, 8⟩, ⟨.pattern "", "a b", 9, 14⟩,
    ⟨.comparison "t" .colon, "t:", 15, 17⟩, ⟨.word, "elf", 17, 20⟩]

/-- Gaps in front of the mark, before and behind the operator word, and at the end. -/
theorem iceQuery_respaced :
    ∃ q, parse "! Ice OR /a b/\tt:elf" = .ok q
      ∧ parse "\n! Ice\r\n \tOR\n/a b/  t:elf\t" = .ok q := by
  obtain ⟨q, hq⟩ := exists_of_toBool "! Ice OR /a b/\tt:elf" (by decide +kernel)
  obtain ⟨ts, hts, -, hrespaced⟩ := parse_respaced hq
  have htokens : (tokenize "! Ice OR /a b/\tt:elf").toOption = some iceTokens := by decide +kernel
  rw [eq_ok_of_toOption htokens] at hts
  obtain rfl := Except.ok.inj hts
  have hfit :
      FitAround [['\n'], ['\r', '\n', ' ', '\t'], ['\n'], [' ', ' '], [], ['\t']] iceTokens := by
    refine ⟨rfl, by simp [isGap], fun i hi => ?_⟩
    have hlt : i < 4 := Nat.lt_of_succ_lt_succ hi
    interval_cases i <;> simp [iceTokens, Token.follows]
  have htext : String.ofList (spaced
      [['\n'], ['\r', '\n', ' ', '\t'], ['\n'], [' ', ' '], [], ['\t']]
      (iceTokens.map (Token.lexeme "! Ice OR /a b/\tt:elf".toList)))
        = "\n! Ice\r\n \tOR\n/a b/  t:elf\t" := by
    decide +kernel
  refine ⟨q, hq, ?_⟩
  rw [← htext]
  exact hrespaced (by decide +kernel) _ hfit

/-- With a backslash a line break is not like other gaps: it leaves two words, where a space is part of
a pattern. -/
example : (tokenize "/a\\\nb/").toOption.map (·.map Token.kind) = some [.word, .word]
    ∧ (tokenize "/a\\ b/").toOption.map (·.map Token.kind) = some [.pattern ""] := by
  decide +kernel

end Query

end CardQuery

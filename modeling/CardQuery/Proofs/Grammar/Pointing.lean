import CardQuery.Proofs.Grammar.Faulting
import CardQuery.Proofs.Grammar.Origin
import CardQuery.Proofs.Lexer.Unexpected

/-!
# Proofs/Grammar/Pointing — what a report points at

* `Rejects.locates` — whatever is wrong with tokens is at one of them, at the name of a field in
  one, or at the end of the query.
* `exists_pointsAt_of_tokenize` — what the cutting halts at is something that is never closed, up to
  the end of the query, or a single character.
* `report_points` — so the range of a report lies within the query and is that of one of these.

The range of a report is cut to the query.  All of these lie within it, so the cut leaves them as
they are.
-/

namespace CardQuery

open Text

/-! ## Ranges -/

/-- **The range of a report**, which lies within the query without being cut to it. -/
structure Rejection.HasRange (r : Rejection) (start stop : Nat) : Prop where
  start_eq : r.diagnostic.start = start
  stop_eq : r.diagnostic.stop = stop
  ordered : start ≤ stop
  within : stop ≤ r.query.length

section Ranges

variable {text : String} {p : Problem}

theorem Rejection.HasRange.span {start stop : Nat} (hle : start ≤ stop)
    (hstop : stop ≤ text.length) : HasRange ⟨p, .span start stop, text⟩ start stop where
  start_eq := by
    simp only [diagnostic, Diagnostic.make]
    omega
  stop_eq := by
    simp only [diagnostic, Diagnostic.make, Option.getD_some]
    omega
  ordered := hle
  within := hstop

theorem Rejection.HasRange.queryEnd :
    HasRange ⟨p, .queryEnd, text⟩ text.length text.length where
  start_eq := by
    simp only [diagnostic, Diagnostic.make]
    omega
  stop_eq := by
    simp only [diagnostic, Diagnostic.make, Option.getD_none]
    omega
  ordered := Nat.le_refl _
  within := Nat.le_refl _

/-- A report is on the query that it belongs to. -/
theorem Rejection.query_diagnostic (r : Rejection) : r.diagnostic.query = r.query := by
  rw [Rejection.diagnostic]
  cases r.place with
  | _ => rfl

/-- **The place in bytes is the size of what stands before it.** -/
theorem Diagnostic.exists_offset {d : Diagnostic} (h : d.start ≤ d.query.length) :
    ∃ s u, d.query = s ++ u ∧ s.length = d.start ∧ d.offset = s.utf8ByteSize := by
  refine ⟨String.ofList (d.query.toList.take d.start), String.ofList (d.query.toList.drop d.start),
    ?_, ?_, rfl⟩
  · rw [← String.ofList_append, List.take_append_drop, String.ofList_toList]
  · rw [String.length_ofList, List.length_take, String.length_toList]
    omega

end Ranges

namespace Grammar

open Query

/-! ## Tokens -/

/-- **What a problem of tokens is about**: one of them, the name of a field in one, or the end of
the query. -/
inductive Locates (ts : List Token) : Problem → Place → Prop where
  | token {t : Token} {p : Problem} : t ∈ ts → p.kind ≠ .unknownField → Locates ts p t.place
  | fieldName {t : Token} {name : String} {op : CompareOp} :
      t ∈ ts → t.kind = .comparison name op →
      Locates ts (.unknownField name) (.span t.start (t.start + name.length))
  | queryEnd {p : Problem} :
      p = .emptyQuery ∨ (∃ s, p = .missingValue s) → Locates ts p .queryEnd

section Tokens

variable {ts : List Token} {f : Failure} {p : Problem}

theorem kind_ne_unknownField (h : p.isOfValue = true) : p.kind ≠ .unknownField := by
  cases p with
  | unknownField => cases h
  | _ => nofun

/-- A problem of later tokens is one of all of them. -/
theorem Locates.behind {place : Place} (h : Locates ts p place) (us : List Token) :
    Locates (us ++ ts) p place := by
  cases h with
  | token ht hp => exact .token (List.mem_append_right us ht) hp
  | fieldName ht hk => exact .fieldName (List.mem_append_right us ht) hk
  | queryEnd hp => exact .queryEnd hp

theorem Refuses.locates (h : Refuses ts f) (hcause : f.cause = .problem p) :
    Locates ts p f.place := by
  cases h with
  | closing | connective | operator =>
    cases hcause
    exact .token List.mem_cons_self nofun
  | pattern _ _ =>
    exact .token List.mem_cons_self (kind_ne_unknownField (isOfValue_of_ofRefusal hcause))
  | unknownField ht _ =>
    cases hcause
    exact .fieldName List.mem_cons_self ht
  | noValue =>
    cases hcause
    exact .queryEnd (.inr ⟨_, rfl⟩)
  | notValue =>
    cases hcause
    exact .token (List.mem_cons_of_mem _ List.mem_cons_self) nofun
  | value _ htyped =>
    obtain rfl : _ = Cause.problem p := hcause
    exact .token (List.mem_cons_of_mem _ List.mem_cons_self)
      (kind_ne_unknownField (isOfValue_of_ofToken htyped))

theorem Fails.locates (h : Fails ts f) (hcause : f.cause = .problem p) :
    Locates ts p f.place := by
  cases h with
  | refuses hr => exact hr.locates hcause
  | misses hm => cases hm with
    | atEnd =>
      cases hcause
      exact .token List.mem_cons_self nofun
    | before =>
      cases hcause
      exact .token (List.mem_cons_of_mem _ List.mem_cons_self) nofun
  | emptyGroup =>
    cases hcause
    exact .token (List.mem_cons_of_mem _ List.mem_cons_self) nofun
  | openGroup | stray =>
    cases hcause
    exact .token List.mem_cons_self nofun

/-- **Whatever is wrong with tokens is at one of them**, or at the end of the query. -/
theorem Rejects.locates (h : Rejects ts f) (hcause : f.cause = .problem p) :
    Locates ts p f.place := by
  rcases h.exists_fails with rfl | ⟨us, vs, rfl, hfails⟩
  · cases hcause
    exact .queryEnd (.inl rfl)
  · exact (hfails.locates hcause).behind us

end Tokens

end Grammar

/-! ## Texts -/

/-- The name of a field stands in front of its operator. -/
theorem Spells.lexeme_eq {name : String} {op : CompareOp} {chars lexeme : List Char}
    (h : Spells (.comparison name op) chars lexeme) :
    lexeme = name.toList ++ op.text.toList := by
  generalize hkind : TokenKind.comparison name op = kind at h
  cases h with
  | comparison =>
    cases hkind
    rw [String.toList_ofList]
  | _ => cases hkind

/-- A token lies within the text that it is cut from. -/
theorem within_of_tokenize {text : String} {ts : List Token} {t : Token}
    (h : tokenize text = .ok ts) (ht : t ∈ ts) : t.start ≤ t.stop ∧ t.stop ≤ text.length := by
  have hbounds := (cuts_of_tokenize h ht).bounds t ht
  rw [String.length_toList] at hbounds
  omega

/-- **The name of a field is the first part of a comparison**, in front of its operator. -/
theorem extract_name {text : String} {ts : List Token} {t : Token} {name : String} {op : CompareOp}
    (h : tokenize text = .ok ts) (ht : t ∈ ts) (hkind : t.kind = .comparison name op) :
    t.start + name.length ≤ t.stop
      ∧ text.toList.extract t.start (t.start + name.length) = name.toList := by
  have hspells := (cuts_of_tokenize h ht).spelled [] rfl t ht
  rw [hkind, List.nil_append] at hspells
  have hlexeme := hspells.lexeme_eq
  have hwithin := within_of_tokenize h ht
  have hlength := congrArg List.length hlexeme
  rw [List.extract_eq_take_drop] at hlexeme hlength
  rw [List.length_take, List.length_drop, List.length_append, String.length_toList,
    String.length_toList] at hlength
  refine ⟨by omega, ?_⟩
  have hname : (name.toList ++ op.text.toList).take name.length = name.toList := by
    rw [← String.length_toList, List.take_left]
  rw [← hname, ← hlexeme, List.take_take, List.extract_eq_take_drop]
  congr 1
  omega

namespace Query

open Grammar

/-- **What a report on a text points at**: a token, the name of a field in front of its operator,
the end of the text, something that is never closed, or a character that nothing begins at. -/
inductive PointsAt (text : String) (r : Rejection) : Nat → Nat → Prop where
  | token {ts : List Token} {t : Token} :
      tokenize text = .ok ts → t ∈ ts → r.problem.kind ≠ .unknownField →
      PointsAt text r t.start t.stop
  | fieldName {ts : List Token} {t : Token} {name : String} {op : CompareOp} :
      tokenize text = .ok ts → t ∈ ts → t.kind = .comparison name op →
      r.problem = .unknownField name →
      text.toList.extract t.start (t.start + name.length) = name.toList →
      PointsAt text r t.start (t.start + name.length)
  | queryEnd {ts : List Token} :
      tokenize text = .ok ts → r.problem = .emptyQuery ∨ (∃ s, r.problem = .missingValue s) →
      PointsAt text r text.length text.length
  | openLiteral {start : Nat} :
      tokenize text = .error r → OpenLiteral r.problem (text.toList.drop start) →
      PointsAt text r start text.length
  | character {start : Nat} {c : Char} :
      tokenize text = .error r → r.problem = .unexpectedCharacter c →
      text.toList[start]? = some c → PointsAt text r start (start + 1)

section Reports

variable {text : String} {r : Rejection}

/-- What is wrong with the tokens of a text is at something in it. -/
theorem exists_pointsAt_of_locates {ts : List Token} {p : Problem} {place : Place}
    (h : tokenize text = .ok ts) (hplace : Locates ts p place) :
    ∃ start stop, Rejection.HasRange ⟨p, place, text⟩ start stop
      ∧ PointsAt text ⟨p, place, text⟩ start stop := by
  cases hplace with
  | @token t _ ht hp =>
    obtain ⟨hle, hstop⟩ := within_of_tokenize h ht
    exact ⟨_, _, .span hle hstop, .token h ht hp⟩
  | @fieldName t name _ ht hk =>
    obtain ⟨hle, hname⟩ := extract_name h ht hk
    have hstop := (within_of_tokenize h ht).2
    exact ⟨_, _, .span (by omega) (by omega), .fieldName h ht hk rfl hname⟩
  | queryEnd hp => exact ⟨_, _, .queryEnd, .queryEnd h hp⟩

/-- What the cutting of a text halts at is something in it. -/
theorem exists_pointsAt_of_tokenize (h : tokenize text = .error r) :
    r.query = text ∧ ∃ start stop, r.HasRange start stop ∧ PointsAt text r start stop := by
  obtain ⟨-, ts, value, before, c, tail, e, hreached, hhalts, rfl⟩ := tokenize_eq_error_iff.mp h
  have hlength : text.length = before.length + 1 + tail.length := by
    rw [← String.length_toList, hreached.text_eq, List.length_append, List.length_reverse,
      List.length_cons]
    omega
  refine ⟨rfl, before.length, ?_⟩
  cases hhalts with
  | unclosed hstart =>
    have hdrop : text.toList.drop before.length = c :: tail := by
      rw [hreached.text_eq, ← List.length_reverse, List.drop_left]
    rw [← hlength] at h ⊢
    refine ⟨_, .span (by omega) (Nat.le_refl _), .openLiteral h ?_⟩
    rw [hdrop]
    exact openLiteral_of_unclosed hstart
  | unexpected =>
    exact ⟨_, .span (by omega) (by omega), .character h rfl hreached.getElem?_length⟩

/-- **Every report points at something in the text.**  Its range lies within the text, the place in
bytes is the size of what stands before the range, and the range is that of a token, of the name of
a field in front of its operator, of the end of the text, of something that is never closed, up to
the end, or of a character that begins nothing. -/
theorem report_points (h : parse text = .error (.rejected r)) :
    r.diagnostic.query = text
      ∧ r.diagnostic.start ≤ r.diagnostic.stop ∧ r.diagnostic.stop ≤ text.length
      ∧ (∃ s u, text = s ++ u ∧ s.length = r.diagnostic.start
        ∧ r.diagnostic.offset = s.utf8ByteSize)
      ∧ PointsAt text r r.diagnostic.start r.diagnostic.stop := by
  have hpoints : r.query = text
      ∧ ∃ start stop, r.HasRange start stop ∧ PointsAt text r start stop := by
    rcases parse_reports_iff.mp h with herror | ⟨ts, f, p, htokens, hf, hp, rfl⟩
    · exact exists_pointsAt_of_tokenize herror
    · exact ⟨rfl, exists_pointsAt_of_locates htokens (hf.locates hp)⟩
  obtain ⟨rfl, start, stop, hrange, hpoints⟩ := hpoints
  have hoffset : r.diagnostic.start ≤ r.diagnostic.query.length := by
    rw [r.query_diagnostic, hrange.start_eq]
    exact Nat.le_trans hrange.ordered hrange.within
  have hsplit := Diagnostic.exists_offset hoffset
  rw [r.query_diagnostic] at hsplit ⊢
  rw [hrange.stop_eq, hrange.start_eq]
  rw [hrange.start_eq] at hsplit
  exact ⟨rfl, hrange.ordered, hrange.within, hsplit, hpoints⟩

end Reports

/-- An unknown field behind a character of four bytes and a tab, and an exact name that is open. -/
theorem fieldAndName_points :
    (∃ r s u, parse "🂡\tfoo:1" = .error (.rejected r) ∧ "🂡\tfoo:1" = s ++ u ∧ s.length = 2
      ∧ s.utf8ByteSize = 5 ∧ r.diagnostic.offset = 5 ∧ PointsAt "🂡\tfoo:1" r 2 5)
      ∧ ∃ r, parse "🂡 ! \"a" = .error (.rejected r) ∧ PointsAt "🂡 ! \"a" r 2 6 := by
  constructor
  · have htokens : (tokenize "🂡\tfoo:1").toOption = some [⟨.word, "🂡", 0, 1⟩,
        ⟨.comparison "foo" .colon, "foo:", 2, 6⟩, ⟨.word, "1", 6, 7⟩] := by decide +kernel
    have hparse : parse "🂡\tfoo:1"
        = .error (.rejected ⟨.unknownField "foo", .span 2 5, "🂡\tfoo:1"⟩) := by
      rw [parse_of_tokens (eq_ok_of_toOption htokens)]
      rfl
    have hoffset : (Rejection.diagnostic
        ⟨.unknownField "foo", .span 2 5, "🂡\tfoo:1"⟩).offset = 5 := by decide +kernel
    obtain ⟨-, -, -, ⟨s, u, htext, hlength, hsize⟩, hpoints⟩ := report_points hparse
    exact ⟨_, s, u, hparse, htext, hlength, hsize.symm.trans hoffset, hoffset, hpoints⟩
  · have hreport : (match parse "🂡 ! \"a" with
        | .error f => some f
        | .ok _ => none) = some (.rejected ⟨.openQuotation, .span 2 6, "🂡 ! \"a"⟩) := by
      decide +kernel
    cases hparse : parse "🂡 ! \"a" with
    | ok q =>
      rw [hparse] at hreport
      cases hreport
    | error f =>
      rw [hparse] at hreport
      obtain rfl := Option.some.inj hreport
      obtain ⟨-, -, -, -, hpoints⟩ := report_points hparse
      exact ⟨_, rfl, hpoints⟩

end Query

end CardQuery

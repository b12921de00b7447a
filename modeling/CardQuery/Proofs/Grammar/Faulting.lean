import CardQuery.Proofs.Grammar.Unreported

/-!
# Proofs/Grammar/Faulting — when a query fails without a report

* `parse_faults_iff` — parsing ends in a fault and not in a report exactly if the query has a term
  that fails without one (`Unreported`) where a term is expected, with nothing wrong before it.
* `parse_reports_iff` — a report is on the cutting of the text or on its tokens.

"Nothing wrong before it" is said by the grammar: the tokens before the term are the beginning of a
query that goes on with a term there (`Expects`).  To be sure of a term and not of a value, an exact
name stands for it.

One direction goes by how the tokens fail (`Stops.exists_unreported`), the other one by the
derivation of the query that goes on otherwise (`Derives.stops`).
-/

namespace CardQuery

namespace Grammar

open Query

/-! ## Beginnings of queries -/

/-- **After the tokens a term is expected**: with an exact name there, and some tokens more, they
are a query of a level. -/
def Expects (l : Level) (before : List Token) : Prop :=
  ∃ t after q, t.kind = .exactName ∧ Derives l (before ++ t :: after) q

section Expects

variable {before ts : List Token} {t : Token} {p : Query}

theorem expects_nil : Expects .term [] :=
  ⟨⟨.exactName, "", 0, 0⟩, [], _, rfl, .exactName rfl⟩

theorem Expects.ofTerm (h : Expects .term before) : Expects .negation before := by
  obtain ⟨x, after, q, hx, hd⟩ := h
  exact ⟨x, after, q, hx, .ofTerm hd⟩

theorem Expects.ofNegation (h : Expects .negation before) : Expects .both before := by
  obtain ⟨x, after, q, hx, hd⟩ := h
  exact ⟨x, after, q, hx, .ofNegation hd⟩

theorem Expects.ofBoth (h : Expects .both before) : Expects .either before := by
  obtain ⟨x, after, q, hx, hd⟩ := h
  exact ⟨x, after, q, hx, .ofBoth hd⟩

theorem Expects.not (ht : t.kind = .not) (h : Expects .negation before) :
    Expects .negation (t :: before) := by
  obtain ⟨x, after, q, hx, hd⟩ := h
  exact ⟨x, after, .not q, hx, .not ht hd⟩

/-- A closing parenthesis goes behind what the query of a group goes on with. -/
theorem Expects.group (ht : t.kind = .opening) (h : Expects .either before) :
    Expects .term (t :: before) := by
  obtain ⟨x, after, q, hx, hd⟩ := h
  refine ⟨x, after ++ [⟨.closing, ")", 0, 0⟩], q, hx, ?_⟩
  simpa using Derives.group (c := ⟨.closing, ")", 0, 0⟩) ht hd rfl

theorem Expects.or (hp : Derives .either ts p) (ht : t.kind = .or) (h : Expects .both before) :
    Expects .either (ts ++ t :: before) := by
  obtain ⟨x, after, q, hx, hd⟩ := h
  exact ⟨x, after, .or p q, hx, by simpa using hp.or ht hd⟩

theorem Expects.and (hp : Derives .both ts p) (ht : t.kind = .and)
    (h : Expects .negation before) : Expects .both (ts ++ t :: before) := by
  obtain ⟨x, after, q, hx, hd⟩ := h
  exact ⟨x, after, .and p q, hx, by simpa using hp.and ht hd⟩

theorem Expects.beside (hp : Derives .both ts p) (h : Expects .negation before) :
    Expects .both (ts ++ before) := by
  obtain ⟨x, after, q, hx, hd⟩ := h
  exact ⟨x, after, .and p q, hx, by simpa using hp.beside hd⟩

end Expects

/-! ## A fault comes from a term without a report -/

/-- A term is missed with a report. -/
theorem Misses.cause_ne_fault {o : Token} {ts : List Token} {failure : Failure}
    (h : Misses o ts failure) (f : Fault) : failure.cause ≠ .fault f := by
  cases h <;> nofun

/-- **Tokens that fail with a fault have a term without a report**, and it is expected there. -/
theorem Stops.exists_unreported {l : Level} {ts : List Token} {failure : Failure} {f : Fault}
    (h : Stops l ts failure) (hf : failure.cause = .fault f) :
    ∃ before u after, ts = before ++ u ++ after ∧ Unreported u f ∧ Expects l before := by
  induction h with
  | ofBoth _ ih =>
    obtain ⟨before, u, after, rfl, hu, hexp⟩ := ih hf
    exact ⟨before, u, after, rfl, hu, hexp.ofBoth⟩
  | ofNegation _ ih =>
    obtain ⟨before, u, after, rfl, hu, hexp⟩ := ih hf
    exact ⟨before, u, after, rfl, hu, hexp.ofNegation⟩
  | ofTerm _ _ ih =>
    obtain ⟨before, u, after, hts, hu, hexp⟩ := ih hf
    exact ⟨before, u, after, hts, hu, hexp.ofTerm⟩
  | or hp ht _ _ ih =>
    obtain ⟨before, u, after, rfl, hu, hexp⟩ := ih hf
    exact ⟨_ ++ _ :: before, u, after, by simp, hu, .or hp ht hexp⟩
  | and hp ht _ _ ih =>
    obtain ⟨before, u, after, rfl, hu, hexp⟩ := ih hf
    exact ⟨_ ++ _ :: before, u, after, by simp, hu, .and hp ht hexp⟩
  | beside hp _ _ ih =>
    obtain ⟨before, u, after, rfl, hu, hexp⟩ := ih hf
    exact ⟨_ ++ before, u, after, by simp, hu, .beside hp hexp⟩
  | not ht _ _ ih =>
    obtain ⟨before, u, after, rfl, hu, hexp⟩ := ih hf
    exact ⟨_ :: before, u, after, by simp, hu, .not ht hexp⟩
  | inGroup ht _ _ ih =>
    obtain ⟨before, u, after, rfl, hu, hexp⟩ := ih hf
    exact ⟨_ :: before, u, after, by simp, hu, .group ht hexp⟩
  | refuses hr =>
    obtain ⟨u, after, rfl, hu⟩ := hr.exists_unreported hf
    exact ⟨[], u, after, rfl, hu, expects_nil⟩
  | orMisses _ _ hm | andMisses _ _ hm | notMisses _ hm => exact absurd hf (hm.cause_ne_fault f)
  | emptyGroup | openGroup | openEnd => cases hf

/-! ## A term without a report, where one is expected, is a fault

The derivation of a query that goes on with an exact name is followed up to that name, which is in
one part of every rule.  The parts before it stand before the term as well. -/

/-- An item of a joined list is in one of the two parts. -/
theorem append_eq_append_cons {α : Type} {xs ys before after : List α} {x : α}
    (h : xs ++ ys = before ++ x :: after) :
    (∃ rest, xs = before ++ x :: rest)
      ∨ ∃ rest, before = xs ++ rest ∧ ys = rest ++ x :: after := by
  rcases List.append_eq_append_iff.mp h with ⟨rest, hb, hy⟩ | ⟨rest, hx, hy⟩
  · exact .inr ⟨rest, hb, hy⟩
  · cases rest with
    | nil => exact .inr ⟨[], by simpa using hx.symm, by simpa using hy.symm⟩
    | cons y rest =>
      injection hy with hxy _
      exact .inl ⟨rest, by rw [hx, hxy]⟩

/-- An item that is not the first is among the others. -/
theorem cons_eq_append_cons {α : Type} {y x : α} {ys before after : List α} (hne : y ≠ x)
    (h : y :: ys = before ++ x :: after) :
    ∃ rest, before = y :: rest ∧ ys = rest ++ x :: after := by
  cases before with
  | nil =>
    injection h with hyx _
    exact absurd hyx hne
  | cons b before =>
    injection h with hyb hys
    exact ⟨before, by rw [hyb], hys⟩

/-- An item of two lists joined by another item is in one of the two. -/
theorem append_cons_eq_append_cons {α : Type} {xs ys before after : List α} {x y : α} (hne : y ≠ x)
    (h : xs ++ y :: ys = before ++ x :: after) :
    (∃ rest, xs = before ++ x :: rest)
      ∨ ∃ rest, before = xs ++ y :: rest ∧ ys = rest ++ x :: after := by
  rcases append_eq_append_cons h with hleft | ⟨mid, rfl, hright⟩
  · exact .inl hleft
  · obtain ⟨rest, rfl, hys⟩ := cons_eq_append_cons hne hright
    exact .inr ⟨rest, rfl, hys⟩

section Rules

variable {l : Level} {vs before rest : List Token} {t x : Token} {q : Query}

/-- Where a query goes on with a term, it begins as terms do. -/
theorem Derives.beginsTerm_before (hd : Derives l (before ++ x :: rest) q) (hvs : BeginsTerm vs) :
    BeginsTerm (before ++ vs) := by
  cases before with
  | nil => exact hvs
  | cons b before =>
    obtain ⟨y, ys, hy, hstart⟩ := hd.startsTerm
    injection hy with hby _
    exact ⟨b, before ++ vs, rfl, by rwa [hby]⟩

/-- Where a term goes on with what is refused, it begins with no dash. -/
theorem Derives.head_ne_not_before {failure : Failure} (hd : Derives .term (before ++ x :: rest) q)
    (hr : Refuses vs failure) : ∃ y ys, before ++ vs = y :: ys ∧ y.kind ≠ .not := by
  cases before with
  | nil => exact hr.head_ne_not
  | cons b before =>
    obtain ⟨y, ys, hy, hnot⟩ := hd.term_head
    injection hy with hby _
    exact ⟨b, before ++ vs, rfl, by rwa [hby]⟩

end Rules

/-- **Where a term is expected, tokens fail at one that is refused.** -/
theorem Derives.stops {l : Level} {ts : List Token} {q : Query} (hd : Derives l ts q)
    {vs : List Token} {failure : Failure} (hvs : BeginsTerm vs) (hr : Refuses vs failure) :
    ∀ {before rest : List Token} {x : Token}, ts = before ++ x :: rest → x.kind = .exactName →
      Stops l (before ++ vs) failure := by
  have hkind : ∀ {t x : Token}, x.kind = .exactName → t.kind ≠ .exactName → t ≠ x := by
    rintro t x hx ht rfl
    exact ht hx
  have hmem : ∀ {ts before rest : List Token} {x : Token}, ts = before ++ x :: rest → x ∈ ts := by
    rintro ts before rest x rfl
    exact List.mem_append_right before List.mem_cons_self
  induction hd with
  | ofBoth _ ih => exact fun hts hx => .ofBoth (ih hts hx)
  | ofNegation _ ih => exact fun hts hx => .ofNegation (ih hts hx)
  | ofTerm hd ih =>
    rintro before rest x rfl hx
    obtain ⟨y, ys, hy, hnot⟩ := hd.head_ne_not_before hr
    have hstops := ih rfl hx
    rw [hy] at hstops ⊢
    exact .ofTerm hnot hstops
  | or hp ht hq ihp ihq =>
    intro before rest x hts hx
    rcases append_cons_eq_append_cons (hkind hx (by rw [ht]; nofun)) hts with
      ⟨_, hleft⟩ | ⟨mid, rfl, rfl⟩
    · exact ihp hleft hx
    · simpa using Stops.or hp ht (hq.beginsTerm_before hvs) (ihq rfl hx)
  | and hp ht hq ihp ihq =>
    intro before rest x hts hx
    rcases append_cons_eq_append_cons (hkind hx (by rw [ht]; nofun)) hts with
      ⟨_, hleft⟩ | ⟨mid, rfl, rfl⟩
    · exact ihp hleft hx
    · simpa using Stops.and hp ht (hq.beginsTerm_before hvs) (ihq rfl hx)
  | beside hp hq ihp ihq =>
    intro before rest x hts hx
    rcases append_eq_append_cons hts with ⟨_, hleft⟩ | ⟨mid, rfl, rfl⟩
    · exact ihp hleft hx
    · simpa using Stops.beside hp (hq.beginsTerm_before hvs) (ihq rfl hx)
  | not ht hq ih =>
    intro before rest x hts hx
    obtain ⟨mid, rfl, rfl⟩ := cons_eq_append_cons (hkind hx (by rw [ht]; nofun)) hts
    exact .not ht (hq.beginsTerm_before hvs) (ih rfl hx)
  | group ht hq hc ih =>
    intro before rest x hts hx
    obtain ⟨mid, rfl, hinner⟩ := cons_eq_append_cons (hkind hx (by rw [ht]; nofun)) hts
    rcases append_cons_eq_append_cons (hkind hx (by rw [hc]; nofun)) hinner with
      ⟨_, rfl⟩ | ⟨_, -, hnil⟩
    · exact .inGroup ht (hq.beginsTerm_before hvs).head_ne_closing (ih rfl hx)
    · simp at hnil
  | exactName ht =>
    intro before rest x hts hx
    cases before with
    | nil => exact .refuses hr
    | cons b before =>
      injection hts with _ hnil
      simp at hnil
  -- no other term has an exact name in it
  | bare ht =>
    intro before rest x hts hx
    obtain rfl := List.mem_singleton.mp (hmem hts)
    rw [hx] at ht
    simp at ht
  | pattern ht _ =>
    intro before rest x hts hx
    obtain rfl := List.mem_singleton.mp (hmem hts)
    rw [hx] at ht
    cases ht
  | compare hc _ | colorless hc _ =>
    intro before rest x hts hx
    obtain ⟨name, hk, -⟩ := hc.named
    have hvalue := hc.isValue
    rcases (List.mem_cons.mp (hmem hts)).imp_right List.mem_singleton.mp with rfl | rfl
    · rw [hx] at hk
      cases hk
    · rw [hx] at hvalue
      cases hvalue

/-! ## Tokens and texts -/

/-- Reading tokens ends in a fault exactly if there is a term without a report among them, which is
expected there. -/
theorem ofTokens_faults_iff {ts : List Token} {f : Fault} :
    (∃ failure, ofTokens ts = .error failure ∧ failure.cause = .fault f) ↔
      ∃ before u after, ts = before ++ u ++ after ∧ Unreported u f ∧ Expects .either before := by
  constructor
  · rintro ⟨failure, h, hf⟩
    cases ofTokens_eq_error_iff.mp h with
    | stops hstops => exact hstops.exists_unreported hf
    | empty | stray => cases hf
  · rintro ⟨before, u, after, rfl, hu, x, rest, q, hx, hd⟩
    obtain ⟨failure, hr, hf⟩ := hu.refuses after
    refine ⟨failure, ofTokens_eq_error_iff.mpr (.stops ?_), hf⟩
    rw [List.append_assoc]
    exact hd.stops (hu.beginsTerm after) hr rfl hx

/-- A fault without a report is none. -/
theorem Unreported.ne_rejected {u : List Token} {f : Fault} (h : Unreported u f) (r : Rejection) :
    f ≠ .rejected r := by
  have hsilent : ∀ {source flags : String}, RefusedSilently source flags f → f ≠ .rejected r := by
    rintro source flags ⟨refusal, -, -, rfl⟩
    cases refusal <;> nofun
  cases h with
  | pattern _ hr => exact hsilent hr
  | comparison _ hv =>
    cases hv with
    | pattern _ _ hr => exact hsilent hr
    | numeral _ _ hp =>
      rw [hp.2.2]
      nofun

end Grammar

namespace Query

open Grammar

/-- **A text has a term without a report** where a term is expected and nothing is wrong before. -/
def FailsUnreported (text : String) (f : Fault) : Prop :=
  ∃ before u after, tokenize text = .ok (before ++ u ++ after) ∧ Unreported u f
    ∧ Expects .either before

theorem faultOf_eq_iff {text : String} {failure : Failure} {f : Fault} (hf : ∀ r, f ≠ .rejected r) :
    faultOf text failure = f ↔ failure.cause = .fault f := by
  rw [faultOf]
  cases hcause : failure.cause with
  | problem p => exact ⟨fun h => absurd h.symm (hf _), nofun⟩
  | fault f' => exact ⟨fun h => congrArg Cause.fault h, fun h => by cases h; rfl⟩

/-- **Parsing fails without a report exactly at a term without one.** -/
theorem parse_faults_iff {text : String} {f : Fault} :
    (parse text = .error f ∧ ∀ r, f ≠ .rejected r) ↔ FailsUnreported text f := by
  constructor
  · rintro ⟨h, hf⟩
    cases htokens : tokenize text with
    | error r =>
      rw [parse_of_rejection htokens] at h
      cases h
      exact absurd rfl (hf r)
    | ok ts =>
      rw [parse_of_tokens htokens] at h
      obtain ⟨failure, hfailure, hfault⟩ := adapt_eq_error.mp h
      obtain ⟨before, u, after, rfl, hu, hexp⟩ :=
        ofTokens_faults_iff.mp ⟨failure, hfailure, (faultOf_eq_iff hf).mp hfault⟩
      exact ⟨before, u, after, htokens, hu, hexp⟩
  · rintro ⟨before, u, after, htokens, hu, hexp⟩
    refine ⟨?_, hu.ne_rejected⟩
    obtain ⟨failure, hfailure, hcause⟩ := ofTokens_faults_iff.mpr ⟨before, u, after, rfl, hu, hexp⟩
    rw [parse_of_tokens htokens]
    exact adapt_eq_error.mpr ⟨failure, hfailure, (faultOf_eq_iff hu.ne_rejected).mpr hcause⟩

/-- **What is reported of a text** is what its cutting halts at or what is wrong with its tokens. -/
theorem parse_reports_iff {text : String} {r : Rejection} :
    parse text = .error (.rejected r) ↔ tokenize text = .error r
      ∨ ∃ ts f p, tokenize text = .ok ts ∧ Rejects ts f ∧ f.cause = .problem p
        ∧ r = ⟨p, f.place, text⟩ := by
  cases htokens : tokenize text with
  | error r' =>
    rw [parse_of_rejection htokens]
    refine ⟨fun h => .inl (by cases h; rfl), ?_⟩
    rintro (h | ⟨_, _, _, h, -⟩)
    · cases h
      rfl
    · cases h
  | ok ts =>
    rw [parse_of_tokens htokens, adapt_eq_error]
    constructor
    · rintro ⟨f, hf, hfault⟩
      rw [faultOf] at hfault
      split at hfault
      · rename_i p hp
        cases hfault
        exact .inr ⟨ts, f, p, rfl, ofTokens_eq_error_iff.mp hf, hp, rfl⟩
      · rename_i hcause
        subst hfault
        obtain ⟨_, u, _, -, hu, -⟩ := ofTokens_faults_iff.mp ⟨f, hf, hcause⟩
        exact absurd rfl (hu.ne_rejected r)
    · rintro (h | ⟨_, f, p, h, hf, hp, rfl⟩)
      · cases h
      · cases h
        exact ⟨f, ofTokens_eq_error_iff.mpr hf, by rw [faultOf, hp]⟩

end Query

end CardQuery

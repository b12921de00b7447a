import CardQuery.Proofs.Grammar.Origin

/-!
# Proofs/Grammar/Parentheses — the parenthesis that a query is rejected for

The usual way to match parentheses is a stack: an opening one is put on it, a closing one takes one
off.  `unmatched` runs this over a list of tokens, and is left with the opening parentheses that
nothing closes and with the closing ones that close nothing.

* A part of a query leaves any stack as it was (`Derives.balanced`).
* Tokens that fail at a closing parenthesis begin with it, and tokens that fail at an opening one
  leave it on top of any stack (`Stops.accuses`).

So the reader, which keeps no stack of its own, reports what the stack says
(`ofTokens_reports_culprit`).
-/

namespace CardQuery

namespace Grammar

open Query

/-! ## The stack -/

/-- Whether a token of a kind is a parenthesis. -/
def isParenthesis : TokenKind → Bool
  | .opening | .closing => true
  | _ => false

/-- The parentheses of some tokens that match no other one. -/
structure Unmatched where
  /-- The opening ones that are not closed, the last of them first. -/
  unclosed : List Token
  /-- The closing ones that close nothing, in their order. -/
  stray : List Token
deriving DecidableEq, Repr

namespace Unmatched

/-- A token more. -/
def step (m : Unmatched) (t : Token) : Unmatched :=
  match t.kind, m.unclosed with
  | .opening, unclosed => ⟨t :: unclosed, m.stray⟩
  | .closing, [] => ⟨[], m.stray ++ [t]⟩
  | .closing, _ :: outer => ⟨outer, m.stray⟩
  | _, _ => m

theorem step_opening {t : Token} (ht : t.kind = .opening) (m : Unmatched) :
    m.step t = ⟨t :: m.unclosed, m.stray⟩ := by
  simp only [step, ht]

theorem step_closing {t o : Token} (ht : t.kind = .closing) (outer stray : List Token) :
    step ⟨o :: outer, stray⟩ t = ⟨outer, stray⟩ := by
  simp only [step, ht]

theorem step_stray {t : Token} (ht : t.kind = .closing) (stray : List Token) :
    step ⟨[], stray⟩ t = ⟨[], stray ++ [t]⟩ := by
  simp only [step, ht]

/-- Other tokens do not matter. -/
theorem step_other {t : Token} (ht : isParenthesis t.kind = false) (m : Unmatched) :
    m.step t = m := by
  unfold step
  split
  · rename_i hk
    rw [hk] at ht
    cases ht
  · rename_i hk _
    rw [hk] at ht
    cases ht
  · rename_i hk _
    rw [hk] at ht
    cases ht
  · rfl

/-- What closes nothing goes on closing nothing. -/
theorem exists_stray_step (m : Unmatched) (t : Token) :
    ∃ more, (m.step t).stray = m.stray ++ more := by
  unfold step
  split
  · exact ⟨[], (List.append_nil _).symm⟩
  · exact ⟨[t], rfl⟩
  · exact ⟨[], (List.append_nil _).symm⟩
  · exact ⟨[], (List.append_nil _).symm⟩

theorem exists_stray_foldl (ts : List Token) (m : Unmatched) :
    ∃ more, (ts.foldl step m).stray = m.stray ++ more := by
  induction ts generalizing m with
  | nil => exact ⟨[], (List.append_nil _).symm⟩
  | cons t ts ih =>
    obtain ⟨first, hfirst⟩ := exists_stray_step m t
    obtain ⟨more, hmore⟩ := ih (m.step t)
    exact ⟨first ++ more, by rw [List.foldl_cons, hmore, hfirst, List.append_assoc]⟩

end Unmatched

/-- **The parentheses of a list of tokens that match no other one.** -/
def unmatched (ts : List Token) : Unmatched := ts.foldl .step ⟨[], []⟩

/-- **The parenthesis that is to blame**: the first that closes nothing, and if there is none the
last that is not closed. -/
def culprit (ts : List Token) : Option Token :=
  (unmatched ts).stray.head?.or (unmatched ts).unclosed.head?

/-- Tokens whose parentheses match each other: they leave any stack as it was. -/
def Balanced (ts : List Token) : Prop := ∀ m : Unmatched, ts.foldl .step m = m

/-- Tokens that leave an opening parenthesis on top of any stack. -/
def LeavesOpen (ts : List Token) (t : Token) : Prop :=
  ∃ outer, ∀ m : Unmatched, ts.foldl .step m = ⟨t :: outer ++ m.unclosed, m.stray⟩

theorem Balanced.append {ts us : List Token} (hts : Balanced ts) (hus : Balanced us) :
    Balanced (ts ++ us) := fun m => by rw [List.foldl_append, hts m, hus m]

theorem balanced_singleton {t : Token} (ht : isParenthesis t.kind = false) : Balanced [t] :=
  Unmatched.step_other ht

/-- Behind tokens that match, others leave open what they leave open by themselves. -/
theorem LeavesOpen.behind {ts us : List Token} {t : Token} (hts : Balanced ts)
    (h : LeavesOpen us t) : LeavesOpen (ts ++ us) t := by
  obtain ⟨outer, h⟩ := h
  exact ⟨outer, fun m => by rw [List.foldl_append, hts m, h m]⟩

/-- Within a group that is not closed either, it is still the inner parenthesis. -/
theorem LeavesOpen.inside {ts : List Token} {t o : Token} (ho : o.kind = .opening)
    (h : LeavesOpen ts t) : LeavesOpen (o :: ts) t := by
  obtain ⟨outer, h⟩ := h
  refine ⟨outer ++ [o], fun m => ?_⟩
  rw [List.foldl_cons, Unmatched.step_opening ho, h]
  simp

/-- The parenthesis of a group that is not closed. -/
theorem Balanced.leavesOpen {ts : List Token} {o : Token} (ho : o.kind = .opening)
    (h : Balanced ts) : LeavesOpen (o :: ts) o :=
  ⟨[], fun m => by rw [List.foldl_cons, Unmatched.step_opening ho, h]; rfl⟩

/-! ## What is read -/

theorem Asks.balanced {t v : Token} {field : Field} {op : CompareOp} (h : Asks t v field op) :
    Balanced [t, v] := by
  obtain ⟨name, hname, -⟩ := h.named
  have hvalue := h.isValue
  have ht : Balanced [t] := balanced_singleton (by rw [hname]; rfl)
  have hv : isParenthesis v.kind = false := by
    cases hk : v.kind with
    | opening | closing =>
      rw [hk] at hvalue
      cases hvalue
    | _ => rfl
  exact ht.append (balanced_singleton hv)

/-- **The parentheses of a part of a query match each other.** -/
theorem Derives.balanced {l : Level} {ts : List Token} {q : Query} (h : Derives l ts q) :
    Balanced ts := by
  induction h with
  | ofBoth _ ih | ofNegation _ ih | ofTerm _ ih => exact ih
  | or _ ht _ ihp ihq | and _ ht _ ihp ihq =>
    exact ihp.append ((balanced_singleton (by rw [ht]; rfl)).append ihq)
  | beside _ _ ihp ihq => exact ihp.append ihq
  | not ht _ ih => exact (balanced_singleton (by rw [ht]; rfl)).append ih
  | group ht _ hc ih =>
    intro m
    rw [List.cons_append, List.foldl_cons, List.foldl_append, Unmatched.step_opening ht, ih]
    exact Unmatched.step_closing hc _ _
  | exactName ht | pattern ht _ => exact balanced_singleton (by rw [ht]; rfl)
  | bare ht => rcases ht with ht | ht <;> exact balanced_singleton (by rw [ht]; rfl)
  | compare hc _ | colorless hc _ => exact hc.toAsks.balanced

/-! ## What is not read -/

/-- A cause that has nothing to do with parentheses, nor with a query that ends where a term is
read. -/
def Apart (c : Cause) : Prop :=
  ∀ p, c = .problem p → p.kind ≠ .unbalancedParens ∧ p ≠ .unexpectedEnd

/-- **The parenthesis that a failure is about**: a closing one that comes first, or an opening one
that is left over, and then nothing is left to be read. -/
inductive Accuses : List Token → Failure → Prop where
  | stray {c : Token} {ts unread : List Token} :
      c.kind = .closing → Accuses (c :: ts) ⟨.problem .strayParenthesis, c.place, unread⟩
  | unclosed {t : Token} {ts : List Token} :
      LeavesOpen ts t → Accuses ts ⟨.problem .openParenthesis, t.place, []⟩
  | none {ts : List Token} {f : Failure} : Apart f.cause → Accuses ts f

theorem apart_problem {p : Problem} (hk : p.kind ≠ .unbalancedParens)
    (he : p ≠ .unexpectedEnd) : Apart (.problem p) := by
  intro p' h
  cases h
  exact ⟨hk, he⟩

/-- What is wrong with a value has nothing to do with parentheses. -/
theorem apart_of_isOfValue {c : Cause} (h : ∀ p, c = .problem p → p.isOfValue = true) :
    Apart c := by
  intro p hp
  have hvalue := h p hp
  cases p with
  | openParenthesis | strayParenthesis | unexpectedEnd => cases hvalue
  | _ => exact ⟨nofun, nofun⟩

theorem Refuses.accuses {ts : List Token} {f : Failure} (h : Refuses ts f) : Accuses ts f := by
  cases h with
  | closing ht => exact .stray ht
  | connective | unknownField | operator | noValue | notValue =>
    exact .none (apart_problem nofun nofun)
  | pattern => exact .none (apart_of_isOfValue fun _ => isOfValue_of_ofRefusal)
  | value _ hcause =>
    refine .none (apart_of_isOfValue fun p hp => ?_)
    exact isOfValue_of_ofToken (hcause.trans (congrArg Except.error hp))

theorem Misses.accuses {o : Token} {us ts : List Token} {f : Failure} (h : Misses o ts f) :
    Accuses us f := by
  cases h <;> exact .none (apart_problem nofun nofun)

/-- Behind tokens that match, a failure is about the same parenthesis, if the reader went on because
a term begins there. -/
theorem Accuses.behind {us ts : List Token} {f : Failure} (hus : Balanced us)
    (hbegins : BeginsTerm ts) (h : Accuses ts f) : Accuses (us ++ ts) f := by
  cases h with
  | stray hc =>
    obtain ⟨t, rest, he, ht⟩ := hbegins
    cases he
    rw [hc] at ht
    cases ht
  | unclosed hopen => exact .unclosed (hopen.behind hus)
  | none hapart => exact .none hapart

/-- **Every failure is about the right parenthesis.** -/
theorem Stops.accuses {l : Level} {ts : List Token} {f : Failure} (h : Stops l ts f) :
    Accuses ts f := by
  induction h with
  | ofBoth _ ih | ofNegation _ ih | ofTerm _ _ ih => exact ih
  | orMisses _ _ hm | andMisses _ _ hm | notMisses _ hm => exact hm.accuses
  | @or us ts t p f hp ht hbegins _ ih | @and us ts t p f hp ht hbegins _ ih =>
    have ht : Balanced [t] := balanced_singleton (by rw [ht]; rfl)
    rw [List.append_cons]
    exact ih.behind (hp.balanced.append ht) hbegins
  | beside hp hbegins _ ih => exact ih.behind hp.balanced hbegins
  | not ht hbegins _ ih => exact ih.behind (balanced_singleton (by rw [ht]; rfl)) hbegins
  | refuses hr => exact hr.accuses
  | emptyGroup => exact .none (apart_problem nofun nofun)
  | inGroup ht hhead _ ih =>
    cases ih with
    | stray hc => exact absurd hc (hhead _ rfl)
    | unclosed hopen => exact .unclosed (hopen.inside ht)
    | none hapart => exact .none hapart
  | openGroup ht hd => exact .unclosed (hd.balanced.leavesOpen ht)
  | openEnd ht => exact .unclosed (Balanced.leavesOpen ht fun _ => rfl)

/-! ## All tokens -/

/-- The first closing parenthesis behind tokens that match is the first that closes nothing. -/
theorem Balanced.culprit_eq {us ts : List Token} {c : Token} (hus : Balanced us)
    (hc : c.kind = .closing) : culprit (us ++ c :: ts) = some c := by
  obtain ⟨more, hmore⟩ := Unmatched.exists_stray_foldl ts ⟨[], [c]⟩
  rw [culprit, unmatched, List.foldl_append, hus, List.foldl_cons, Unmatched.step_stray hc,
    List.nil_append, hmore]
  rfl

theorem LeavesOpen.culprit_eq {ts : List Token} {t : Token} (h : LeavesOpen ts t) :
    culprit ts = some t := by
  obtain ⟨outer, h⟩ := h
  rw [culprit, unmatched, h]
  rfl

theorem Rejects.culprit_eq {ts : List Token} {f : Failure} (h : Rejects ts f) :
    (∀ p, f.cause = .problem p → p.kind = .unbalancedParens →
        ∃ t, culprit ts = some t ∧ f.place = t.place)
      ∧ (f.cause = .problem .openParenthesis → f.unread = [])
      ∧ f.cause ≠ .problem .unexpectedEnd := by
  cases h with
  | empty =>
    refine ⟨fun p hp hk => ?_, nofun, nofun⟩
    cases hp
    cases hk
  | stops hstops =>
    cases hstops.accuses with
    | stray hc =>
      have hfirst : Balanced [] := fun _ => rfl
      exact ⟨fun _ _ _ => ⟨_, hfirst.culprit_eq hc, rfl⟩, nofun, nofun⟩
    | unclosed hopen => exact ⟨fun _ _ _ => ⟨_, hopen.culprit_eq, rfl⟩, fun _ => rfl, nofun⟩
    | none hapart =>
      refine ⟨fun p hp hk => absurd hk (hapart p hp).1, fun hp => ?_, fun hp => ?_⟩
      · exact absurd rfl (hapart _ hp).1
      · exact absurd rfl (hapart _ hp).2
  | stray hd hc => exact ⟨fun _ _ _ => ⟨_, hd.balanced.culprit_eq hc, rfl⟩, nofun, nofun⟩

/-- **Parentheses are reported as a stack matches them.**  Tokens that are a query have all their
parentheses matched.  A report on parentheses is about the one that is to blame, and a missing
closing one is reported only behind the last token.  Two fallbacks of the reader are dead: no term
is read where the tokens end, and behind a whole query nothing but a closing parenthesis is left. -/
theorem ofTokens_reports_culprit (ts : List Token) :
    (∀ q, ofTokens ts = .ok q → unmatched ts = ⟨[], []⟩)
      ∧ (∀ f, ofTokens ts = .error f →
          (∀ p, f.cause = .problem p → p.kind = .unbalancedParens →
              ∃ t, culprit ts = some t ∧ f.place = t.place)
            ∧ (f.cause = .problem .openParenthesis → f.unread = [])
            ∧ f.cause ≠ .problem .unexpectedEnd)
      ∧ ∀ q t rest,
          (readEither Pattern.make (4 * ts.length + 4) ts : Reading Id) = .ok (q, t :: rest) →
            t.kind = .closing := by
  refine ⟨fun q hq => ?_, fun f hf => ?_, fun q t rest hread => ?_⟩
  · exact (ofTokens_eq_ok_iff.mp hq).balanced _
  · exact (ofTokens_eq_error_iff.mp hf).culprit_eq
  · exact readEither_ends hread t rfl

/-- A group that is not closed within another one that is not: the inner one is to blame. -/
theorem openWithinOpen_reports_culprit :
    let ts : List Token := [⟨.opening, "(", 0, 1⟩, ⟨.word, "a", 1, 2⟩, ⟨.opening, "(", 3, 4⟩,
      ⟨.word, "b", 4, 5⟩]
    ∃ f t, ofTokens ts = .error f ∧ culprit ts = some t ∧ f.place = t.place ∧ t.start = 3
      ∧ f.unread = [] := by
  intro ts
  have hf : ofTokens ts = .error ⟨.problem .openParenthesis, .span 3 4, []⟩ := rfl
  obtain ⟨hreport, hend, -⟩ := (ofTokens_reports_culprit ts).2.1 _ hf
  obtain ⟨t, ht, hplace⟩ := hreport _ rfl rfl
  exact ⟨_, t, hf, ht, hplace, (Place.span.inj hplace).1.symm, hend rfl⟩

end Grammar

end CardQuery

import CardQuery.Proofs.Grammar.Stopping

/-!
# Proofs/Grammar/FirstError — later tokens do not change the first error

Whatever is wrong with some tokens stays wrong with them when more tokens follow, and the reader
reports it all the same: it has not looked at the tokens that it did not read.  The exception are
failures for want of tokens (`EndsEarly`), which further tokens may mend.

A failure is carried over with the further tokens behind those that were not read, so that its
derivation is carried over rule by rule (`Stops.append`).
-/

namespace CardQuery

/-- A failure with further tokens behind those that were not read. -/
def Failure.before (f : Failure) (s : List Token) : Failure := { f with unread := f.unread ++ s }

namespace Grammar

open Query

/-- **The tokens end too early**: there are none, or an operator or a comparison or an opening
parenthesis lacks what should follow. -/
inductive EndsEarly : List Token → Failure → Prop where
  | empty {ts : List Token} : EndsEarly ts ⟨.problem .emptyQuery, .queryEnd, []⟩
  | operator (us : List Token) {o : Token} : o.kind = .and ∨ o.kind = .or ∨ o.kind = .not →
      EndsEarly (us ++ [o]) ⟨.problem (.missingTerm o.text), o.place, []⟩
  | comparison (us : List Token) {t : Token} : t.kind.takesValue = true →
      EndsEarly (us ++ [t]) ⟨.problem (.missingValue t.text), .queryEnd, []⟩
  | parenthesis {ts : List Token} {place : Place} :
      EndsEarly ts ⟨.problem .openParenthesis, place, []⟩

/-- Tokens that end too early do so behind others. -/
theorem EndsEarly.behind {ts : List Token} {f : Failure} (us : List Token) (h : EndsEarly ts f) :
    EndsEarly (us ++ ts) f := by
  cases h with
  | empty => exact .empty
  | operator vs ho =>
    rw [← List.append_assoc]
    exact .operator (us ++ vs) ho
  | comparison vs ht =>
    rw [← List.append_assoc]
    exact .comparison (us ++ vs) ht
  | parenthesis => exact .parenthesis

/-- Where the tokens end too early, none is left. -/
theorem EndsEarly.unread_eq {ts : List Token} {f : Failure} (h : EndsEarly ts f) :
    f.unread = [] := by
  cases h <;> rfl

theorem BeginsTerm.append {ts : List Token} (h : BeginsTerm ts) (s : List Token) :
    BeginsTerm (ts ++ s) := by
  obtain ⟨t, rest, rfl, ht⟩ := h
  exact ⟨t, rest ++ s, rfl, ht⟩

/-- An operator lacks a term where it is last, or whatever follows the next token. -/
theorem Misses.append {o : Token} {ts : List Token} {f : Failure} (h : Misses o ts f)
    (ho : o.kind = .and ∨ o.kind = .or ∨ o.kind = .not) (us s : List Token) :
    EndsEarly (us ++ o :: ts) f ∨ Misses o (ts ++ s) (f.before s) := by
  cases h with
  | atEnd => exact .inl (.operator us ho)
  | before ht => exact .inr (.before ht)

/-- What is refused is refused whatever follows, unless it is a comparison at the end. -/
theorem Refuses.append {ts : List Token} {f : Failure} (h : Refuses ts f) (s : List Token) :
    EndsEarly ts f ∨ Refuses (ts ++ s) (f.before s) := by
  cases h with
  | closing ht => exact .inr (.closing ht)
  | connective ht => exact .inr (.connective ht)
  | pattern ht hr => exact .inr (.pattern ht hr)
  | unknownField ht hfield => exact .inr (.unknownField ht hfield)
  | operator ht hfield hop => exact .inr (.operator ht hfield hop)
  | noValue ht _ _ => exact .inl (.comparison [] (by rw [ht]; rfl))
  | notValue ht hfield hop hv => exact .inr (.notValue ht hfield hop hv)
  | value ha hcause => exact .inr (.value ha hcause)

/-- **A failure stays the same when tokens follow**, unless they were wanting. -/
theorem Stops.append {l : Level} {ts : List Token} {f : Failure} (h : Stops l ts f)
    (s : List Token) : EndsEarly ts f ∨ Stops l (ts ++ s) (f.before s) := by
  induction h with
  | ofBoth _ ih => exact ih.imp_right .ofBoth
  | orMisses hp ht hmisses =>
    rw [List.append_assoc]
    exact (hmisses.append (.inr (.inl ht)) _ s).imp_right (.orMisses hp ht)
  | or hp ht hbegins _ ih =>
    rw [List.append_assoc]
    exact ih.imp (fun h => .behind _ (.behind [_] h)) (.or hp ht (hbegins.append s))
  | ofNegation _ ih => exact ih.imp_right .ofNegation
  | andMisses hp ht hmisses =>
    rw [List.append_assoc]
    exact (hmisses.append (.inl ht) _ s).imp_right (.andMisses hp ht)
  | and hp ht hbegins _ ih =>
    rw [List.append_assoc]
    exact ih.imp (fun h => .behind _ (.behind [_] h)) (.and hp ht (hbegins.append s))
  | beside hp hbegins _ ih =>
    rw [List.append_assoc]
    exact ih.imp (.behind _) (.beside hp (hbegins.append s))
  | ofTerm hnot _ ih => exact ih.imp_right (.ofTerm hnot)
  | notMisses ht hmisses =>
    exact (hmisses.append (.inr (.inr ht)) [] s).imp_right (.notMisses ht)
  | not ht hbegins _ ih => exact ih.imp (.behind [_]) (.not ht (hbegins.append s))
  | refuses hr => exact (hr.append s).imp_right .refuses
  | emptyGroup ht hc => exact .inr (.emptyGroup ht hc)
  | @inGroup t ts f ht hhead hstops ih =>
    obtain ⟨c, rest, rfl⟩ := List.exists_cons_of_ne_nil hstops.ne_nil
    exact ih.imp (.behind [t]) (.inGroup ht hhead)
  | openGroup | openEnd => exact .inl .parenthesis

theorem Rejects.append {ts : List Token} {f : Failure} (h : Rejects ts f) (s : List Token) :
    EndsEarly ts f ∨ Rejects (ts ++ s) (f.before s) := by
  cases h with
  | empty => exact .inl .empty
  | stops hstops => exact (hstops.append s).imp_right .stops
  | stray hd hc =>
    rw [List.append_assoc]
    exact .inr (.stray hd hc)

/-- **The first error is final.**  Tokens that fail, and not for want of more, fail in the same way
whatever tokens follow, and so with the same report on any text. -/
theorem first_error_final {p : List Token} {f : Failure} (h : ofTokens p = .error f)
    (hend : ¬ EndsEarly p f) (s : List Token) :
    ∃ g, ofTokens (p ++ s) = .error g ∧ g.unread = f.unread ++ s
      ∧ ∀ query, faultOf query g = faultOf query f :=
  ⟨f.before s,
    ofTokens_eq_error_iff.mpr (((ofTokens_eq_error_iff.mp h).append s).resolve_left hend),
    rfl, fun _ => rfl⟩

/-- A closing parenthesis where an operator lacks its term. -/
theorem orBeforeParenthesis_final :
    let p : List Token := [⟨.word, "a", 0, 1⟩, ⟨.or, "or", 2, 4⟩, ⟨.closing, ")", 5, 6⟩]
    let s : List Token := [⟨.word, "b", 7, 8⟩]
    ∃ f g, ofTokens p = .error f ∧ ¬ EndsEarly p f ∧ ofTokens (p ++ s) = .error g
      ∧ g.unread = f.unread ++ s ∧ ∀ query, faultOf query g = faultOf query f := by
  intro p s
  let f : Failure := ⟨.problem (.missingTerm "or"), .span 5 6, [⟨.closing, ")", 5, 6⟩]⟩
  have hf : ofTokens p = .error f := rfl
  have hend : ¬ EndsEarly p f := fun h => nomatch h.unread_eq
  obtain ⟨g, hg⟩ := first_error_final hf hend s
  exact ⟨f, g, hf, hend, hg⟩

end Grammar

end CardQuery

import CardQuery.Proofs.Grammar.Stopping

/-!
# Proofs/Grammar/Origin — where a failure comes from

Whatever has been read before a failure, and however deep in groups, it is one of a few things that
are wrong with the next tokens by themselves (`Fails`).

* `Rejects.exists_fails` — tokens that are no query are none at all, or end with tokens that fail by
  themselves.
* `isOfValue_of_ofToken` — what is reported of a value is about values, and about nothing else.

Facts about the problem and the place of a failure are proved by cases on `Fails`.
-/

namespace CardQuery

/-- Whether a problem is one of the value of a comparison, or of a pattern. -/
def Problem.isOfValue : Problem → Bool
  | .unsupportedPattern _ | .orderedStar _ | .notNumber .. | .notDate .. | .unknownRarity _
  | .unknownFlag .. | .badPattern _ => true
  | _ => false

namespace Grammar

open Query

/-! ## Values -/

section Values

variable {field : Field} {op : CompareOp} {text : String} {p : Problem}

theorem isOfValue_of_ofRefusal {r : Regex.Refusal} (h : Cause.ofRefusal r = .problem p) :
    p.isOfValue = true := by
  cases r with
  | malformed e =>
    cases h
    rfl
  | _ => cases h

theorem numberOfText_ne_problem : Value.numberOfText text ≠ .error (.problem p) := by
  rw [Value.numberOfText]
  split <;> nofun

theorem isOfValue_of_ofText (h : Value.ofText field text = .error (.problem p)) :
    p.isOfValue = true := by
  unfold Value.ofText at h
  split at h
  · unfold Value.numericOfText at h
    split at h
    · exact absurd h numberOfText_ne_problem
    · cases h
      rfl
  · unfold Value.dateOfText at h
    split at h <;> cases h
    rfl
  · unfold Value.colorOfText at h
    split at h
    · exact absurd h numberOfText_ne_problem
    · cases h
  · unfold Value.rarityOfText at h
    split at h <;> cases h
    rfl
  · cases h
  · unfold Value.flagOfText at h
    split at h <;> cases h
    rfl
  all_goals cases h

/-- **What is reported of a value is about values.** -/
theorem isOfValue_of_ofToken {v : Token}
    (h : Value.ofToken (m := Id) Pattern.make field op v = .error (.problem p)) :
    p.isOfValue = true := by
  unfold Value.ofToken at h
  split at h
  · split at h
    · rcases bind_eq_error.mp h with h | ⟨_, -, h⟩
      · obtain ⟨r, -, hr⟩ := patternOfToken_eq_error.mp h
        exact isOfValue_of_ofRefusal hr
      · cases h
    · cases h
      rfl
  · change Value.ofWritten field op v.text = .error (.problem p) at h
    rw [Value.ofWritten] at h
    split at h
    · split at h
      · cases h
      · cases h
        rfl
    · exact isOfValue_of_ofText h

end Values

/-! ## Failures by themselves -/

/-- **The first tokens fail by themselves**: no term follows an operator, or they are no term, or a
closing parenthesis stands where it closes nothing or too soon, or an opening one is not closed. -/
inductive Fails : List Token → Failure → Prop where
  | misses {o : Token} {ts : List Token} {f : Failure} : Misses o ts f → Fails (o :: ts) f
  | refuses {ts : List Token} {f : Failure} : Refuses ts f → Fails ts f
  | emptyGroup {t c : Token} {ts : List Token} : t.kind = .opening → c.kind = .closing →
      Fails (t :: c :: ts) ⟨.problem .emptyParentheses, c.place, c :: ts⟩
  | openGroup {t : Token} {ts : List Token} :
      t.kind = .opening → Fails (t :: ts) ⟨.problem .openParenthesis, t.place, []⟩
  | stray {c : Token} {ts : List Token} :
      c.kind = .closing → Fails (c :: ts) ⟨.problem .strayParenthesis, c.place, c :: ts⟩

/-- **Every failure comes from tokens that fail by themselves.** -/
theorem Stops.exists_fails {l : Level} {ts : List Token} {f : Failure} (h : Stops l ts f) :
    ∃ us vs, ts = us ++ vs ∧ Fails vs f := by
  induction h with
  | ofBoth _ ih | ofNegation _ ih | ofTerm _ _ ih => exact ih
  | @orMisses us _ _ _ _ _ _ hm | @andMisses us _ _ _ _ _ _ hm => exact ⟨us, _, rfl, .misses hm⟩
  | @or us _ t _ _ _ _ _ _ ih | @and us _ t _ _ _ _ _ _ ih =>
    obtain ⟨vs, ws, rfl, hf⟩ := ih
    exact ⟨us ++ t :: vs, ws, by simp, hf⟩
  | @beside us _ _ _ _ _ _ ih =>
    obtain ⟨vs, ws, rfl, hf⟩ := ih
    exact ⟨us ++ vs, ws, by simp, hf⟩
  | notMisses _ hm => exact ⟨[], _, rfl, .misses hm⟩
  | @not t _ _ _ _ _ ih | @inGroup t _ _ _ _ _ ih =>
    obtain ⟨vs, ws, rfl, hf⟩ := ih
    exact ⟨t :: vs, ws, rfl, hf⟩
  | refuses hr => exact ⟨[], _, rfl, .refuses hr⟩
  | emptyGroup ht hc => exact ⟨[], _, rfl, .emptyGroup ht hc⟩
  | openGroup ht _ | openEnd ht => exact ⟨[], _, rfl, .openGroup ht⟩

/-- **Tokens that are no query are none, or end with tokens that fail by themselves.** -/
theorem Rejects.exists_fails {ts : List Token} {f : Failure} (h : Rejects ts f) :
    f = ⟨.problem .emptyQuery, .queryEnd, []⟩ ∨ ∃ us vs, ts = us ++ vs ∧ Fails vs f := by
  cases h with
  | empty => exact .inl rfl
  | stops hs => exact .inr hs.exists_fails
  | @stray us _ _ _ _ hc => exact .inr ⟨us, _, rfl, .stray hc⟩

end Grammar

end CardQuery

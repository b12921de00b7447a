import CardQuery.Proofs.Grammar.Faulting
import CardQuery.Search

/-!
# Proofs/Search — what compiling a query comes to

* `escapes_iff_failsUnreported` — parsing ends in a query or in a report, and compiling in an
  outcome with exactly one of a search and a rejection, unless the text has a term that fails
  without a report; and then both end in the fault of that term.
-/

namespace CardQuery

open Query

/-- Compiling ends in a fault exactly if parsing ends in one without a report. -/
theorem tryCompile_eq_error_iff {text : String} {f : Fault} :
    tryCompile text = .error f ↔ parse text = .error f ∧ ∀ r, f ≠ .rejected r := by
  rw [tryCompile]
  split
  · rename_i q hq
    rw [hq]
    exact ⟨nofun, fun h => nomatch h.1⟩
  · rename_i r hr
    rw [hr]
    refine ⟨nofun, fun ⟨h, hf⟩ => ?_⟩
    cases h
    exact absurd rfl (hf r)
  · rename_i f' hne hf'
    rw [hf']
    constructor
    · intro h
      cases h
      exact ⟨rfl, hne⟩
    · rintro ⟨h, -⟩
      cases h
      rfl

/-- An outcome holds the search of the query that was parsed, or the rejection that it met. -/
theorem tryCompile_eq_ok {text : String} {o : Outcome} (h : tryCompile text = .ok o) :
    (∃ q, parse text = .ok q ∧ o = ⟨some ⟨text, q⟩, none⟩)
      ∨ ∃ r, parse text = .error (.rejected r) ∧ o = ⟨none, some r⟩ := by
  rw [tryCompile] at h
  split at h
  · rename_i q hq
    cases h
    exact .inl ⟨q, hq, rfl⟩
  · rename_i r hr
    cases h
    exact .inr ⟨r, hr, rfl⟩
  · cases h

/-- **What escapes**: a fault without a report escapes from parsing, and from compiling, exactly if
the text has a term that fails without a report where a term is expected and nothing is wrong
before.  On all other texts parsing gives a query or a report, and the outcome of compiling is the
search of that query or that report, and not both. -/
theorem escapes_iff_failsUnreported (text : String) :
    (∀ f, (parse text = .error f ∧ ∀ r, f ≠ .rejected r) ↔ FailsUnreported text f)
      ∧ (∀ f, tryCompile text = .error f ↔ FailsUnreported text f)
      ∧ ((∀ f, ¬ FailsUnreported text f) ↔
          (∃ q, parse text = .ok q ∧ tryCompile text = .ok ⟨some ⟨text, q⟩, none⟩)
            ∨ ∃ r, parse text = .error (.rejected r) ∧ tryCompile text = .ok ⟨none, some r⟩) := by
  refine ⟨fun f => parse_faults_iff, fun f => tryCompile_eq_error_iff.trans parse_faults_iff, ?_⟩
  constructor
  · intro hnone
    cases ho : tryCompile text with
    | error f => exact absurd (parse_faults_iff.mp (tryCompile_eq_error_iff.mp ho)) (hnone f)
    | ok o =>
      rcases tryCompile_eq_ok ho with ⟨q, hq, rfl⟩ | ⟨r, hr, rfl⟩
      · exact .inl ⟨q, hq, rfl⟩
      · exact .inr ⟨r, hr, rfl⟩
  · intro h f hf
    have hescape := tryCompile_eq_error_iff.mpr (parse_faults_iff.mpr hf)
    rcases h with ⟨q, -, ho⟩ | ⟨r, -, ho⟩ <;> rw [ho] at hescape <;> cases hescape

/-- A repetition beyond all bounds is no report. -/
theorem countTooLarge_escapes :
    ∃ f, parse "/a\x7b99999999999\x7d/" = .error f ∧ ∀ r, f ≠ .rejected r := by
  have hfault : (match parse "/a\x7b99999999999\x7d/" with
      | .error f => some f
      | .ok _ => none) = some .tooLarge := by decide +kernel
  cases h : parse "/a\x7b99999999999\x7d/" with
  | ok q =>
    rw [h] at hfault
    cases hfault
  | error f =>
    rw [h] at hfault
    injection hfault with hf
    refine ⟨f, rfl, fun r hr => ?_⟩
    rw [hf] at hr
    cases hr

end CardQuery

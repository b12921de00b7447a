import CardQuery.Proofs.Grammar.Stopping
import CardQuery.Proofs.Number.Numeral

/-!
# Proofs/Grammar/Unreported — terms that fail without a report

What is wrong with a query is reported as a `Problem`.  Two kinds of terms fail otherwise: a pattern
may be refused without a complaint, and a numeral may pass for one and still not be read, as the
check takes off white space that the reading does not.

* `ofToken_eq_fault_iff` — these are the only values that fail without a report.
* `Unreported.refuses`, `Refuses.exists_unreported` — so these are the terms that fail without one.
-/

namespace CardQuery

namespace Grammar

open Query

/-! ## Values -/

/-- A pattern that is refused without a complaint. -/
def RefusedSilently (source flags : String) (f : Fault) : Prop :=
  ∃ r, Pattern.make source flags = .error r ∧ (∀ e, r ≠ .malformed e) ∧ f = .ofRefusal r

/-- A plain numeral that is not read because of an information separator around it. -/
def OddlyPadded (text : String) (f : Fault) : Prop :=
  isPlainNumeral (Text.trim text).toList = true ∧ (∃ c ∈ text.toList, isSeparator c = true)
    ∧ f = .badValue (.notNumber text)

/-- A token that gives a field no value, for a reason that is not reported. -/
inductive Valueless (field : Field) (v : Token) (f : Fault) : Prop where
  | pattern {flags : String} (hk : v.kind = .pattern flags) (ht : field.kind.takesPattern = true)
      (hr : RefusedSilently v.text flags f)
  | numeral (hk : ∀ flags, v.kind ≠ .pattern flags) (hn : field.kind = .numeric)
      (hp : OddlyPadded v.text f)

section Values

variable {field : Field} {op : CompareOp} {text : String} {f : Fault}

theorem ofRefusal_eq_fault_iff {r : Regex.Refusal} :
    Cause.ofRefusal r = .fault f ↔ (∀ e, r ≠ .malformed e) ∧ f = .ofRefusal r := by
  cases r with
  | malformed e => simp [Cause.ofRefusal]
  | _ => simp [Cause.ofRefusal, eq_comm]

theorem patternOfToken_eq_fault_iff {source flags : String} :
    (Pattern.ofToken Pattern.make source flags : ExceptT Cause Id Pattern) = .error (.fault f) ↔
      RefusedSilently source flags f :=
  patternOfToken_eq_error.trans
    (exists_congr fun _ => and_congr_right fun _ => ofRefusal_eq_fault_iff)

theorem numberOfText_eq_fault_iff :
    Value.numberOfText text = .error (.fault f) ↔
      readDouble? text = none ∧ f = .badValue (.notNumber text) := by
  rw [Value.numberOfText]
  cases readDouble? text with
  | some x => exact ⟨nofun, fun h => nomatch h.1⟩
  | none => exact ⟨fun h => ⟨rfl, by cases h; rfl⟩, fun h => by rw [h.2]⟩

theorem numericOfText_eq_fault_iff :
    Value.numericOfText field text = .error (.fault f) ↔ OddlyPadded text f := by
  rw [Value.numericOfText, OddlyPadded]
  split
  · rename_i hplain
    rw [numberOfText_eq_fault_iff, readDouble?_eq_none_iff hplain]
    exact ⟨fun h => ⟨hplain, h⟩, And.right⟩
  · rename_i hplain
    exact ⟨nofun, fun h => absurd h.1 hplain⟩

/-- Digits alone are a plain numeral without white space, so a number of colors is always read. -/
theorem colorOfText_ne_fault : Value.colorOfText text ≠ .error (.fault f) := by
  intro h
  rw [Value.colorOfText] at h
  split at h
  · rename_i hdigits
    obtain ⟨hne, hall⟩ := Bool.and_eq_true_iff.mp hdigits
    have hall := List.all_eq_true.mp hall
    have hplain : isPlainNumeral (Text.trim text).toList = true := by
      rw [Text.trim, String.toList_ofList, trimBy_eq_self fun c hc =>
        Text.isBlank_eq_false_of_isDigit (hall c hc)]
      refine isPlainNumeral_of_digits (fun he => ?_) hall
      exact absurd (String.toList_eq_nil_iff.mp he) (by simpa using hne)
    obtain ⟨c, hc, hsep⟩ :=
      (readDouble?_eq_none_iff hplain).mp (numberOfText_eq_fault_iff.mp h).1
    rw [isSeparator_eq_false_of_isDigit (hall c hc)] at hsep
    cases hsep
  · cases h

theorem dateOfText_ne_fault : Value.dateOfText field text ≠ .error (.fault f) := by
  rw [Value.dateOfText]
  split <;> nofun

theorem rarityOfText_ne_fault : Value.rarityOfText text ≠ .error (.fault f) := by
  rw [Value.rarityOfText]
  split <;> nofun

theorem flagOfText_ne_fault : Value.flagOfText field text ≠ .error (.fault f) := by
  rw [Value.flagOfText]
  split <;> nofun

theorem ofText_eq_fault_iff :
    Value.ofText field text = .error (.fault f) ↔
      field.kind = .numeric ∧ OddlyPadded text f := by
  cases hk : field.kind <;>
    simp only [Value.ofText, hk, reduceCtorEq, true_and, false_and, iff_false]
  case numeric => exact numericOfText_eq_fault_iff
  case color => exact colorOfText_ne_fault
  case date => exact dateOfText_ne_fault
  case rarity => exact rarityOfText_ne_fault
  case flag => exact flagOfText_ne_fault

/-- The star of a stat is no numeral. -/
theorem ofWritten_eq_fault_iff :
    Value.ofWritten field op text = .error (.fault f) ↔
      field.kind = .numeric ∧ OddlyPadded text f := by
  rw [Value.ofWritten]
  split
  · rename_i hstar
    obtain rfl : text = "*" := eq_of_beq (Bool.and_eq_true_iff.mp hstar).1
    refine ⟨fun h => ?_, fun ⟨_, hplain, _⟩ => absurd hplain (by decide)⟩
    split at h <;> cases h
  · exact ofText_eq_fault_iff

/-- **A value fails without a report** exactly if its pattern or its numeral does. -/
theorem ofToken_eq_fault_iff {v : Token} :
    Value.ofToken (m := Id) Pattern.make field op v = .error (.fault f) ↔
      Valueless field v f := by
  unfold Value.ofToken
  split
  · rename_i flags hk
    split
    · rename_i ht
      constructor
      · intro h
        rcases bind_eq_error.mp h with h | ⟨p, -, hp⟩
        · exact .pattern hk ht (patternOfToken_eq_fault_iff.mp h)
        · cases hp
      · intro h
        cases h with
        | pattern hk' _ hr =>
          rw [hk] at hk'
          cases hk'
          exact bind_eq_error.mpr (.inl (patternOfToken_eq_fault_iff.mpr hr))
        | numeral hk' _ _ => exact absurd hk (hk' flags)
    · rename_i ht
      refine ⟨nofun, fun h => ?_⟩
      cases h with
      | pattern _ ht' _ => exact absurd ht' ht
      | numeral hk' _ _ => exact absurd hk (hk' flags)
  · rename_i hk
    refine ofWritten_eq_fault_iff.trans ⟨fun h => .numeral hk h.1 h.2, fun h => ?_⟩
    cases h with
    | pattern hk' _ _ => exact absurd hk' (hk _)
    | numeral _ hn hp => exact ⟨hn, hp⟩

end Values

/-! ## Terms -/

/-- **The tokens of a term that fails without a report**: a pattern, or a comparison that is right
up to its value. -/
inductive Unreported : List Token → Fault → Prop where
  | pattern {t : Token} {flags : String} {f : Fault} :
      t.kind = .pattern flags → RefusedSilently t.text flags f → Unreported [t] f
  | comparison {t v : Token} {field : Field} {op : CompareOp} {f : Fault} :
      Asks t v field op → Valueless field v f → Unreported [t, v] f

/-- A term without a report begins as terms do. -/
theorem Unreported.beginsTerm {u : List Token} {f : Fault} (h : Unreported u f)
    (after : List Token) : BeginsTerm (u ++ after) := by
  cases h with
  | pattern hk _ => exact ⟨_, after, rfl, by rw [hk]; rfl⟩
  | comparison ha _ =>
    obtain ⟨name, hk, -⟩ := ha.named
    exact ⟨_, _, rfl, by rw [hk]; rfl⟩

/-- **A term without a report is refused**, whatever follows. -/
theorem Unreported.refuses {u : List Token} {f : Fault} (h : Unreported u f)
    (after : List Token) : ∃ failure, Refuses (u ++ after) failure ∧ failure.cause = .fault f := by
  cases h with
  | pattern hk hr =>
    obtain ⟨r, hmake, hrefusal⟩ := hr
    exact ⟨_, .pattern hk hmake, ofRefusal_eq_fault_iff.mpr hrefusal⟩
  | comparison ha hval => exact ⟨_, .value ha (ofToken_eq_fault_iff.mpr hval), rfl⟩

/-- **What is refused with a fault begins with a term without a report.** -/
theorem Refuses.exists_unreported {ts : List Token} {failure : Failure} {f : Fault}
    (h : Refuses ts failure) (hf : failure.cause = .fault f) :
    ∃ u after, ts = u ++ after ∧ Unreported u f := by
  cases h with
  | @pattern t ts _ r hk hmake =>
    exact ⟨[t], ts, rfl, .pattern hk ⟨r, hmake, ofRefusal_eq_fault_iff.mp hf⟩⟩
  | @value t v ts _ _ _ ha hcause =>
    obtain rfl : _ = Cause.fault f := hf
    exact ⟨[t, v], ts, rfl, .comparison ha (ofToken_eq_fault_iff.mp hcause)⟩
  | _ => cases hf

end Grammar

end CardQuery

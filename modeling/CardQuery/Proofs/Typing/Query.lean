import CardQuery.Proofs.Calendar
import CardQuery.Proofs.Grammar.Reading
import CardQuery.Proofs.Text.LowerCase

/-!
# Proofs/Typing/Query — what is read is well typed

`WellTyped` asks every comparison of a query for an operator that its field is compared by, and for
a value of the form that the kind of the field calls for (`Value.Fits`).

* `parse_wellTyped` — the query of a text is well typed.

The induction is on the derivation of the query, so that only the two rules for comparisons say
anything about values; what they need is the specification of `Value.ofToken`, `ofToken_fits`.
-/

namespace CardQuery

open Grammar

/-! ## Types -/

/-- **A value has the form that a field calls for** under an operator. -/
def Value.Fits (field : Field) (op : CompareOp) (value : Value) : Prop :=
  match field.kind with
  | .text | .discrete | .list => (∃ s, value = .text (.string s)) ∨ ∃ p, value = .pattern p
  | .color => (∃ x, value = .number x) ∨ ∃ set, value = .colors set
  | .numeric =>
    (∃ x, value = .number x) ∨ value = .keyword "*" ∧ field.isStat = true ∧ op.isEquality = true
  | .date => ∃ w d, value = .keyword w ∧ Date.Writes w d ∧ d.isValid = true
  | .rarity => ∃ r : Rarity, value = .keyword r.name
  | .legality => ∃ w, value = .keyword w ∧ Text.lower w = w
  | .flag => ∃ w, value = .keyword w ∧ (Flag.named? w).isSome = true

/-- **All parts of a query fit together.** -/
def Query.WellTyped : Query → Prop
  | compare field op value =>
    op ∈ field.operators ∧ value.Fits field op ∧ ¬ AsksNoColor field op value
  | term content => ∃ s, content = .string s
  | pattern _ => True
  | and left right | or left right => left.WellTyped ∧ right.WellTyped
  | not operand => operand.WellTyped

/-! ## Values of tokens -/

namespace Value

variable {field : Field} {op : CompareOp} {text : String} {value : Value}

/-- Whatever reads a number gives one. -/
theorem numberOfText_eq_ok (h : numberOfText text = .ok value) : ∃ x, value = .number x := by
  rw [numberOfText] at h
  split at h
  · rename_i x _
    cases h
    exact ⟨x, rfl⟩
  · cases h

theorem numericOfText_eq_ok (h : numericOfText field text = .ok value) :
    ∃ x, value = .number x := by
  rw [numericOfText] at h
  split at h
  · exact numberOfText_eq_ok h
  · cases h

theorem colorOfText_eq_ok (h : colorOfText text = .ok value) :
    (∃ x, value = .number x) ∨ ∃ set, value = .colors set := by
  rw [colorOfText] at h
  split at h
  · exact .inl (numberOfText_eq_ok h)
  · cases h
    exact .inr ⟨_, rfl⟩

theorem dateOfText_eq_ok (h : dateOfText field text = .ok value) :
    ∃ w d, value = .keyword w ∧ Date.Writes w d ∧ d.isValid = true := by
  rw [dateOfText] at h
  split at h
  · rename_i d hd
    cases h
    have hvalid := Date.isValid_of_read? hd
    exact ⟨d.text, d, rfl, Date.writes_text hvalid, hvalid⟩
  · cases h

theorem rarityOfText_eq_ok (h : rarityOfText text = .ok value) :
    ∃ r : Rarity, value = .keyword r.name := by
  rw [rarityOfText] at h
  split at h
  · rename_i r _
    cases h
    exact ⟨r, rfl⟩
  · cases h

theorem flagOfText_eq_ok (h : flagOfText field text = .ok value) :
    ∃ w, value = .keyword w ∧ (Flag.named? w).isSome = true := by
  rw [flagOfText] at h
  split at h
  · rename_i hknown
    cases h
    exact ⟨Text.lower text, rfl, hknown⟩
  · cases h

/-- **A text gives a value of the field's kind.** -/
theorem ofText_fits (h : ofText field text = .ok value) : value.Fits field op := by
  unfold Fits
  cases hk : field.kind <;> rw [ofText, hk] at h <;> dsimp only at h ⊢
  case text | discrete | list =>
    cases h
    exact .inl ⟨text, rfl⟩
  case color => exact colorOfText_eq_ok h
  case numeric => exact .inl (numericOfText_eq_ok h)
  case date => exact dateOfText_eq_ok h
  case rarity => exact rarityOfText_eq_ok h
  case legality =>
    cases h
    exact ⟨Text.lower text, rfl, Text.lower_lower text⟩
  case flag => exact flagOfText_eq_ok h

theorem kind_of_isStat (h : field.isStat = true) : field.kind = .numeric := by
  cases field <;> first | rfl | cases h

/-- A word or a quotation gives a value of the field's kind, or the star of a stat. -/
theorem ofWritten_fits (h : ofWritten field op text = .ok value) : value.Fits field op := by
  rw [ofWritten] at h
  split at h
  · rename_i hstar
    obtain ⟨-, hstat⟩ := Bool.and_eq_true_iff.mp hstar
    split at h
    · rename_i heq
      cases h
      simp only [Fits, kind_of_isStat hstat]
      exact .inr ⟨trivial, hstat, heq⟩
    · cases h
  · exact ofText_fits h

theorem pattern_fits (h : field.kind.takesPattern = true) (p : Pattern) :
    (Value.pattern p).Fits field op := by
  unfold Fits
  cases hk : field.kind <;> rw [hk] at h <;> first | exact .inr ⟨p, rfl⟩ | cases h

/-- **A token gives a value that fits.** -/
theorem ofToken_fits {v : Token} (h : ofToken (m := Id) Pattern.make field op v = .ok value) :
    value.Fits field op := by
  unfold ofToken at h
  split at h
  · split at h
    · rename_i hpattern
      obtain ⟨p, -, hp⟩ := bind_eq_ok.mp h
      cases hp
      exact pattern_fits hpattern p
    · cases h
  · exact ofWritten_fits h

end Value

/-! ## Queries of tokens and texts -/

namespace Grammar

/-- A comparison is well typed as it is written, unless it asks for no color. -/
theorem Compares.wellTyped {t v : Token} {field : Field} {op : CompareOp} {value : Value}
    (h : Compares t v field op value) (hn : ¬ AsksNoColor field op value) :
    (Query.compare field op value).WellTyped :=
  ⟨h.admitted, Value.ofToken_fits h.typed, hn⟩

/-- Asking for no color is well typed as it is stored: equality is an operator of all fields. -/
theorem AsksNoColor.wellTyped {field : Field} {op : CompareOp} {value : Value}
    (h : AsksNoColor field op value) : (Query.compare field .eq value).WellTyped := by
  obtain ⟨hk, -, rfl⟩ := h
  refine ⟨mem_operators_iff.mpr ?_, ?_, fun hn => nomatch hn.2.1⟩
  · rw [hk]
    rfl
  · simp only [Value.Fits, hk]
    exact .inr ⟨_, rfl⟩

/-- **A derivation gives a well-typed query.** -/
theorem Derives.wellTyped {l : Level} {ts : List Token} {q : Query} (h : Derives l ts q) :
    q.WellTyped := by
  induction h with
  | ofBoth _ ih | ofNegation _ ih | ofTerm _ ih | not _ _ ih | group _ _ _ ih => exact ih
  | or _ _ _ ihp ihq | and _ _ _ ihp ihq | beside _ _ ihp ihq => exact ⟨ihp, ihq⟩
  | exactName _ => exact ⟨by decide, .inl ⟨_, rfl⟩, fun hn => nomatch hn.1⟩
  | bare _ => exact ⟨_, rfl⟩
  | pattern _ _ => trivial
  | compare hc hn => exact hc.wellTyped hn
  | colorless _ hn => exact hn.wellTyped

end Grammar

namespace Query

/-- **The query of a text is well typed.** -/
theorem parse_wellTyped {text : String} {q : Query} (h : parse text = .ok q) : q.WellTyped := by
  obtain ⟨ts, -, hq⟩ := parse_eq_ok.mp h
  exact (ofTokens_eq_ok_iff.mp hq).wellTyped

end Query

end CardQuery

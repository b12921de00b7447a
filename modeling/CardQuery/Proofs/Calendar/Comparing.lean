import CardQuery.Proofs.Calendar.Reading
import CardQuery.Proofs.Grammar.Atoms
import CardQuery.Proofs.Grammar.Quoting

/-!
# Proofs/Calendar/Comparing — comparisons with a date

* `ofWritten_date_eq_ok_iff` — the texts that a date field takes are those that give a date, and
  what is stored is the calendar form of that date.
* `parse_date` — the calendar form of a date is read as that date again.
* `dates_follow_calendar` — so a comparison that a text writes compares the dates of cards with the
  date that its value gives.
-/

namespace CardQuery

open Grammar Query

/-! ## Values -/

/-- **Which texts a date field takes**, and what it stores. -/
theorem Value.ofWritten_date_eq_ok_iff {op : CompareOp} {s : String} {value : Value} :
    Value.ofWritten .date op s = .ok value ↔
      ∃ d : Date, d.isValid = true ∧ d.Gives s.toList ∧ value = .keyword d.text := by
  have hdate : Value.ofWritten .date op s = Value.dateOfText .date s := by
    have hstat : Field.date.isStat = false := rfl
    rw [ofWritten, hstat, Bool.and_false]
    rfl
  rw [hdate, dateOfText]
  constructor
  · intro h
    split at h
    · rename_i d hread
      obtain ⟨hd, hgives⟩ := Date.read?_eq_some_iff.mp hread
      cases h
      exact ⟨d, hd, hgives, rfl⟩
    · cases h
  · rintro ⟨d, hd, hgives, rfl⟩
    rw [Date.read?_eq_some_iff.mpr ⟨hd, hgives⟩]

/-- A token of a value that a date field takes is no pattern. -/
theorem Value.ofToken_date_eq_ok {op : CompareOp} {v : Token} {value : Value}
    (h : Value.ofToken (m := Id) Pattern.make .date op v = .ok value) :
    Value.ofWritten .date op v.text = .ok value := by
  unfold ofToken at h
  split at h
  · cases h
  · exact h

/-! ## Texts -/

namespace Query

/-- **The calendar form of a date is the value of a comparison with it.** -/
theorem parse_date {d : Date} (hd : d.isValid = true) {name : String}
    (hname : name ∈ Field.date.aliases) (op : CompareOp) :
    parse (name ++ op.text ++ d.text) = .ok (.compare .date op (.keyword d.text)) := by
  have hwrites := Date.writes_text hd
  obtain ⟨c, s, hchars⟩ : ∃ c s, d.text.toList = c :: s := by
    obtain ⟨year, month, day, hw, -⟩ := hwrites
    exact List.exists_cons_of_ne_nil (by simp [hw])
  have hplain : ∀ e ∈ c :: s, e.isDigit = true ∨ e = '-' := fun e he =>
    hwrites.isDigit_or_dash (hchars ▸ he)
  have hother {e x : Char} (he : e ∈ c :: s) (hdigit : x.isDigit = false) (hdash : x ≠ '-') :
      e ≠ x := by
    rintro rfl
    rcases hplain e he with h | h
    · cases hdigit.symm.trans h
    · exact hdash h
  have hvalue : ∀ e ∈ c :: s, isValueChar e = true := by
    intro e he
    rcases hplain e he with h | rfl
    · exact isValueChar_of_isDigit h
    · rfl
  have htext : d.text = String.ofList (c :: s) := by
    rw [← hchars, String.ofList_toList]
  have hcuts (before : List Char) (place : Nat) :
      ∃ stop, Cuts true before place (c :: s) [⟨.word, d.text, place, stop⟩] := by
    rw [htext]
    exact ⟨_, cuts_word before place (hother List.mem_cons_self rfl (by decide)) hvalue⟩
  have htyped (v : Token) (hv : v.kind = .word) (hword : v.text = d.text) :
      Value.ofToken (m := Id) Pattern.make .date op v = .ok (.keyword d.text) := by
    rw [Value.ofToken, hv, hword]
    exact Value.ofWritten_date_eq_ok_iff.mpr ⟨d, hd, d.gives_text, rfl⟩
  have hop : op ∈ Field.date.operators := mem_operators_iff.mpr rfl
  have hcolor : ¬ AsksNoColor .date op (.keyword d.text) := by
    rintro ⟨hfield, -⟩
    cases hfield
  have hparse := parse_comparison hname hop
    (operatorAt?_text_cons op (hother List.mem_cons_self rfl (by decide)) s) rfl hcuts htyped hcolor
  rwa [← htext] at hparse

theorem exists_of_forall₂ {α β : Type} {R : α → β → Prop} {xs : List α} {ys : List β}
    (h : List.Forall₂ R xs ys) {y : β} (hy : y ∈ ys) : ∃ x ∈ xs, R x y := by
  induction h with
  | nil => cases hy
  | @cons x y' xs ys hxy _ ih =>
    rcases List.mem_cons.mp hy with rfl | hy
    · exact ⟨x, List.mem_cons_self, hxy⟩
    · obtain ⟨x', hx', hR⟩ := ih hy
      exact ⟨x', List.mem_cons_of_mem x hx', hR⟩

/-- A comparison with a date is made by the tokens of one. -/
theorem exists_compares_date {text : String} {ts : List Token} {q : Query} {op : CompareOp}
    {value : Value} (htokens : tokenize text = .ok ts) (h : parse text = .ok q)
    (hleaf : .compare .date op value ∈ q.leaves) :
    ∃ t v, Atom.comparison t v ∈ atoms ts ∧ Compares t v .date op value := by
  obtain ⟨ts', htokens', -, hd⟩ := exists_tokens_of_parse h
  cases htokens.symm.trans htokens'
  obtain ⟨a, ha, hmakes⟩ := exists_of_forall₂ hd.tallies.leaves hleaf
  generalize hq : Query.compare .date op value = leaf at hmakes
  cases hmakes with
  | exactName | bare | pattern => cases hq
  | @compare t v field op' value' hcompares =>
    refine ⟨t, v, ha, ?_⟩
    by_cases hn : AsksNoColor field op' value'
    · rw [comparing_eq_exactly hn] at hq
      cases hq
      cases hn.1
    · rw [comparing_eq_compare hn] at hq
      cases hq
      exact hcompares

/-- **Comparisons with dates follow the calendar.**  A comparison that a text makes with a date has a
value that gives a date in one of its forms, and stores the calendar form of that very date, which is
read as the same comparison again.  It holds for a card with a date in its calendar form as the two
dates compare by year, month and day, under every operator, and never for a card without a date. -/
theorem dates_follow_calendar {text : String} {ts : List Token} {q : Query} {op : CompareOp}
    {value : Value} (htokens : tokenize text = .ok ts) (h : parse text = .ok q)
    (hleaf : .compare .date op value ∈ q.leaves) :
    ∃ t v, ∃ d : Date, Atom.comparison t v ∈ atoms ts ∧ Compares t v .date op value
      ∧ d.isValid = true ∧ d.Gives v.text.toList
      ∧ value = .keyword d.text ∧ Date.Writes d.text d
      ∧ (∀ name ∈ Field.date.aliases,
        parse (name ++ op.text ++ d.text) = .ok (.compare .date op value))
      ∧ ∀ (c : Card) (op : CompareOp),
        (∀ r e, c.releasedAt = .string r → Date.Writes r e →
          (compare .date op value).matches c = .ok (op.admits (some (e.order d))))
        ∧ (c.releasedAt = .null ∨ c.releasedAt = .string "" →
          (compare .date op value).matches c = .ok false) := by
  obtain ⟨t, v, hatom, hcompares⟩ := exists_compares_date htokens h hleaf
  obtain ⟨d, hd, hgives, rfl⟩ :=
    Value.ofWritten_date_eq_ok_iff.mp (Value.ofToken_date_eq_ok hcompares.typed)
  have hwrites := Date.writes_text hd
  refine ⟨t, v, d, hatom, hcompares, hd, hgives, rfl, hwrites,
    fun name hname => parse_date hd hname op, fun c op => ⟨fun r e hr he => ?_, fun hnone => ?_⟩⟩
  · change matchDate op (.keyword d.text) c.releasedAt = _
    rw [hr]
    exact matchDate_written he hwrites op
  · change matchDate op (.keyword d.text) c.releasedAt = _
    rcases hnone with hnull | hempty
    · rw [hnull]
      rfl
    · rw [hempty]
      rfl

/-- The first Monday of a year of weeks lies in the calendar year before. -/
theorem parse_firstMonday :
    parse "date>=2009-W01-1" = .ok (.compare .date .ge (.keyword "2008-12-29")) := by
  have htokens : (tokenize "date>=2009-W01-1").toOption
      = some [⟨.comparison "date" .ge, "date>=", 0, 6⟩, ⟨.word, "2009-W01-1", 6, 16⟩] := by
    decide +kernel
  have hread : Date.read? "2009-W01-1" = some ⟨2008, 12, 29⟩ := by decide +kernel
  have htext : Date.text ⟨2008, 12, 29⟩ = "2008-12-29" := by decide +kernel
  have hvalue : Value.ofWritten .date .ge "2009-W01-1" = .ok (.keyword "2008-12-29") := by
    have hkind : Value.ofWritten .date .ge "2009-W01-1" = Value.dateOfText .date "2009-W01-1" := rfl
    rw [hkind, Value.dateOfText, hread, ← htext]
  have hcompares : Compares ⟨.comparison "date" .ge, "date>=", 0, 6⟩ ⟨.word, "2009-W01-1", 6, 16⟩
      .date .ge (.keyword "2008-12-29") :=
    { named := ⟨"date", rfl, rfl⟩, admitted := by decide, isValue := rfl, adjacent := rfl
      typed := hvalue }
  exact parse_of_compares htokens hcompares fun hcolor => absurd hcolor.1 (by decide)

/-- A card of the day after that Monday, and one without a date. -/
theorem firstMonday_compares :
    let value := Value.keyword "2008-12-29"
    let tuesday := { Card.named (.string "Island") with releasedAt := .string "2008-12-30" }
    (compare .date .ge value).matches tuesday = .ok true
      ∧ (compare .date .eq value).matches tuesday = .ok false
      ∧ (compare .date .ne value).matches (Card.named (.string "Island")) = .ok false := by
  intro value tuesday
  obtain ⟨ts, htokens, -⟩ := exists_tokens_of_parse parse_firstMonday
  obtain ⟨-, -, d, -, -, hd, -, hvalue, -, -, hcards⟩ :=
    dates_follow_calendar htokens parse_firstMonday List.mem_cons_self
  obtain rfl : d = ⟨2008, 12, 29⟩ := by
    have hread : Date.read? "2008-12-29" = some ⟨2008, 12, 29⟩ := by decide +kernel
    have hsame := Date.read?_text hd
    rw [← Value.keyword.inj hvalue, hread] at hsame
    exact (Option.some.inj hsame).symm
  have hwrites : Date.Writes "2008-12-30" ⟨2008, 12, 30⟩ := by
    have htext : Date.text ⟨2008, 12, 30⟩ = "2008-12-30" := by decide +kernel
    exact htext ▸ Date.writes_text (d := ⟨2008, 12, 30⟩) (by decide)
  exact ⟨(hcards tuesday .ge).1 _ _ rfl hwrites, (hcards tuesday .eq).1 _ _ rfl hwrites,
    (hcards _ .ne).2 (.inl rfl)⟩

end Query

end CardQuery

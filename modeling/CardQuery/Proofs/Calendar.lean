import CardQuery.Calendar

/-!
# Proofs/Calendar — written dates have a fixed width

* `writes_text` — a date is written by four digits for the year, two for the month and two for the
  day, with dashes between.
* `Writes.isDigit_or_dash` — there is nothing else in what a date is written as.

`readCount?` reads just those digits back, so `Date.Writes` is said in its terms.
-/

namespace CardQuery

namespace Date

/-- A text is the calendar form of a date: the year in four digits, the month and the day in two. -/
def Writes (w : String) (d : Date) : Prop :=
  ∃ year month day : List Char, w.toList = year ++ '-' :: (month ++ '-' :: day)
    ∧ readCount? 4 year = some (d.year, [])
    ∧ readCount? 2 month = some (d.month, [])
    ∧ readCount? 2 day = some (d.day, [])

/-- **Padded digits are read back**, and there are just as many as the width says. -/
theorem readCount?_padded {width n : Nat} (hw : 0 < width) (hn : n < Nat.pow 10 width) :
    readCount? width (padded width n) = some (n, []) := by
  have hlen : (Nat.toDigits 10 n).length ≤ width :=
    (Nat.length_toDigits_le_iff (by decide) hw).mpr hn
  have hwidth : (padded width n).length = width := by
    rw [padded, List.length_append, List.length_replicate]
    omega
  have hdigits : (padded width n).all Char.isDigit = true := by
    rw [List.all_eq_true]
    intro c hc
    rcases List.mem_append.mp hc with hc | hc
    · rw [List.eq_of_mem_replicate hc]
      rfl
    · exact Nat.isDigit_of_mem_toDigits (by decide) (by decide) hc
  have hvalue : Nat.ofDigitChars 10 (padded width n) 0 = n := by
    rw [padded, Nat.ofDigitChars_append, Nat.ofDigitChars_replicate_zero, Nat.mul_zero,
      Nat.ofDigitChars_ten_toDigits]
  have htake : (padded width n).take width = padded width n :=
    List.take_of_length_le (Nat.le_of_eq hwidth)
  have hdrop : (padded width n).drop width = [] := List.drop_of_length_le (Nat.le_of_eq hwidth)
  simp only [readCount?, htake, hdrop, hwidth, hdigits, beq_self_eq_true, Bool.and_self, if_true]
  exact congrArg (fun m => some (m, [])) hvalue

theorem year_lt {d : Date} (h : d.isValid = true) : d.year < 10000 := by
  simp only [isValid, Bool.and_eq_true, decide_eq_true_eq] at h
  omega

/-- A month has its length among twelve of them, and none is longer than 31 days. -/
theorem month_day_lt {d : Date} (h : d.isValid = true) :
    d.month < 100 ∧ d.day < 100 := by
  simp only [isValid, Bool.and_eq_true, Option.any_eq_true, decide_eq_true_eq] at h
  obtain ⟨-, length, hlength, hday⟩ := h
  obtain ⟨hmonth, hget⟩ := List.getElem?_eq_some_iff.mp hlength
  have hlong : ∀ n ∈ monthLengths d.year, n ≤ 31 := by
    rw [monthLengths]
    split <;> decide
  have hle := hlong length (hget ▸ List.getElem_mem hmonth)
  have hcount : (monthLengths d.year).length = 12 := rfl
  omega

/-- **A date is written in its calendar form.** -/
theorem writes_text {d : Date} (h : d.isValid = true) : Writes d.text d := by
  obtain ⟨hmonth, hday⟩ := month_day_lt h
  refine ⟨padded 4 d.year, padded 2 d.month, padded 2 d.day, ?_, ?_, ?_, ?_⟩
  · rw [text, String.toList_ofList, List.append_assoc]
    rfl
  · exact readCount?_padded (by decide) (year_lt h)
  · exact readCount?_padded (by decide) hmonth
  · exact readCount?_padded (by decide) hday

theorem isDigit_of_readCount? {count n : Nat} {s : List Char}
    (h : readCount? count s = some (n, [])) : ∀ c ∈ s, c.isDigit = true := by
  rw [readCount?] at h
  split at h
  · rename_i hform
    injection h with h
    injection h with _ hdrop
    have hall : s.take count = s := by
      rw [← List.append_nil (s.take count), ← hdrop, List.take_append_drop]
    rw [hall] at hform
    exact List.all_eq_true.mp (Bool.and_eq_true_iff.mp hform).2
  · cases h

/-- The characters of a calendar form. -/
theorem Writes.isDigit_or_dash {w : String} {d : Date} (h : Writes w d) {c : Char}
    (hc : c ∈ w.toList) : c.isDigit = true ∨ c = '-' := by
  obtain ⟨year, month, day, hw, hyear, hmonth, hday⟩ := h
  rw [hw, List.mem_append, List.mem_cons, List.mem_append, List.mem_cons] at hc
  rcases hc with hc | hc | hc | hc | hc
  · exact .inl (isDigit_of_readCount? hyear c hc)
  · exact .inr hc
  · exact .inl (isDigit_of_readCount? hmonth c hc)
  · exact .inr hc
  · exact .inl (isDigit_of_readCount? hday c hc)

/-- What is read is a date. -/
theorem isValid_of_read? {s : String} {d : Date} (h : read? s = some d) : d.isValid = true := by
  rw [read?] at h
  split at h
  · exact (Option.filter_eq_some_iff.mp h).2
  · cases h

end Date

end CardQuery

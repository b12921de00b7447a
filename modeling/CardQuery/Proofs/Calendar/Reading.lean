import CardQuery.Proofs.Calendar.Week

/-!
# Proofs/Calendar/Reading — which texts give a date

* `read?_eq_some_iff` — a text gives a date if it is one of its forms, or one of eight characters
  without dashes with two more bytes behind it.
* `read?_text` — so the calendar form of a date gives that date.

`Date.HasForm` has the forms: year, month and day, or year, week and weekday, or year and week for
its Monday, each with dashes between its parts or without.
-/

namespace CardQuery

namespace Date

/-! ## Forms -/

/-- The dash between the parts of a form, if there is one. -/
def dashIf : Bool → List Char
  | true => ['-']
  | false => []

/-- **The forms of a date.** -/
inductive HasForm (d : Date) : List Char → Prop where
  /-- Year, month and day. -/
  | calendar (dash : Bool) : HasForm d
      (padded 4 d.year ++ (dashIf dash ++ (padded 2 d.month ++ (dashIf dash ++ padded 2 d.day))))
  /-- Year, week and weekday. -/
  | weekday (dash : Bool) {year week weekday : Nat} :
      year < 10000 → d.IsWeekDate year week weekday → HasForm d
      (padded 4 year
        ++ (dashIf dash ++ 'W' :: (padded 2 week ++ (dashIf dash ++ padded 1 weekday))))
  /-- Year and week of a Monday. -/
  | week (dash : Bool) {year week : Nat} : year < 10000 → d.IsWeekDate year week 1 → HasForm d
      (padded 4 year ++ (dashIf dash ++ 'W' :: padded 2 week))

/-- **A text that gives a date**: one of its forms, or one of eight characters without dashes with
two more bytes behind it. -/
inductive Gives (d : Date) : List Char → Prop where
  | whole {form : List Char} : d.HasForm form → Gives d form
  | followed {form tail : List Char} : d.HasForm form → form.length = 8 → '-' ∉ form →
      (String.ofList tail).utf8ByteSize = 2 → Gives d (form ++ tail)

/-! ## Numbers -/

section Numbers

variable {width n : Nat} {s rest : List Char}

theorem padded_digits (hw : 0 < width) (hn : n < 10 ^ width) :
    IsDigits (padded width n) ∧ (padded width n).length = width
      ∧ n = Nat.ofDigitChars 10 (padded width n) 0 := by
  obtain ⟨ds, hds, hlength, hdigits, hvalue⟩ := readCount?_eq_some_iff.mp (readCount?_padded hw hn)
  rw [List.append_nil] at hds
  rw [hds]
  exact ⟨hdigits, hlength, hvalue⟩

/-- **Digits are read as the number that they pad out.** -/
theorem readCount?_eq_some_iff_padded (hw : 0 < width) : readCount? width s = some (n, rest) ↔
    s = padded width n ++ rest ∧ n < 10 ^ width := by
  rw [readCount?_eq_some_iff]
  constructor
  · rintro ⟨ds, rfl, rfl, hdigits, rfl⟩
    have hlt := ofDigitChars_lt hdigits
    obtain ⟨hpadded, hlength, hvalue⟩ := padded_digits hw hlt
    rw [← hdigits.eq_of_ofDigitChars hpadded hlength.symm hvalue]
    exact ⟨rfl, hlt⟩
  · rintro ⟨rfl, hn⟩
    obtain ⟨hpadded, hlength, hvalue⟩ := padded_digits hw hn
    exact ⟨_, rfl, hlength, hpadded, hvalue⟩

theorem length_padded (hw : 0 < width) (hn : n < 10 ^ width) : (padded width n).length = width :=
  (padded_digits hw hn).2.1

/-- A padded number begins with a digit. -/
theorem exists_padded_eq_cons (hw : 0 < width) (hn : n < 10 ^ width) :
    ∃ c ds, padded width n = c :: ds ∧ c.isDigit = true := by
  obtain ⟨hdigits, hlength, -⟩ := padded_digits hw hn
  obtain ⟨c, ds, hds⟩ := List.exists_cons_of_length_pos (hlength ▸ hw)
  exact ⟨c, ds, hds, hdigits c (hds ▸ List.mem_cons_self)⟩

theorem skipDash?_eq_some_iff {dash : Bool} :
    skipDash? dash s = some rest ↔ s = dashIf dash ++ rest := by
  cases dash with
  | false => exact Option.some_inj
  | true =>
    rw [dashIf, List.singleton_append]
    constructor
    · intro h
      unfold skipDash? at h
      split at h
      · rename_i htrue
        cases htrue
      · cases h
        rfl
      · cases h
    · rintro rfl
      rfl

/-- Whether there are dashes shows behind the year. -/
theorem head?_dashIf (dash : Bool) (hrest : rest.head? ≠ some '-') :
    ((dashIf dash ++ rest).head? == some '-') = dash := by
  cases dash with
  | true => rfl
  | false => exact beq_false_of_ne hrest

end Numbers

/-! ## Reading a form -/

section Fields

variable {d : Date} {s rest : List Char} {year month day week weekday : Nat} {dash : Bool}

/-- The date of a week and its weekday, behind the `W`. -/
def weekFields? (dash : Bool) (year : Nat) (s : List Char) : Option Date := do
  let (week, rest) ← readCount? 2 s
  if rest.isEmpty then ofWeek? year week 1
  else
    let (weekday, _) ← readCount? 1 (← skipDash? dash rest)
    ofWeek? year week weekday

/-- The date of a month and its day. -/
def monthFields? (dash : Bool) (year : Nat) (s : List Char) : Option Date := do
  let (month, rest) ← readCount? 2 s
  let (day, _) ← readCount? 2 (← skipDash? dash rest)
  return ⟨year, month, day⟩

/-- The date of the parts behind a year. -/
def partsFields? (dash : Bool) (year : Nat) : List Char → Option Date
  | 'W' :: rest => weekFields? dash year rest
  | rest => monthFields? dash year rest

theorem readFields?_eq (s : List Char) : readFields? s = (do
    let (year, rest) ← readCount? 4 s
    let dash := rest.head? == some '-'
    partsFields? dash year (← skipDash? dash rest)) := rfl

/-- **A year is read, and the dash behind it** shows whether there are others. -/
theorem readFields?_year (hyear : year < 10000) (hrest : rest.head? ≠ some '-') :
    readFields? (padded 4 year ++ (dashIf dash ++ rest)) = partsFields? dash year rest := by
  have hread : readCount? 4 (padded 4 year ++ (dashIf dash ++ rest))
      = some (year, dashIf dash ++ rest) :=
    (readCount?_eq_some_iff_padded (by decide)).mpr ⟨rfl, hyear⟩
  have hskip : skipDash? dash (dashIf dash ++ rest) = some rest := skipDash?_eq_some_iff.mpr rfl
  rw [readFields?_eq, hread]
  dsimp only [Option.bind_eq_bind, Option.bind_some]
  rw [head?_dashIf dash hrest, hskip]
  rfl

theorem exists_year (h : readFields? s = some d) :
    ∃ year dash, year < 10000
      ∧ ((∃ rest, s = padded 4 year ++ (dashIf dash ++ 'W' :: rest)
          ∧ weekFields? dash year rest = some d)
        ∨ ∃ rest, s = padded 4 year ++ (dashIf dash ++ rest)
          ∧ monthFields? dash year rest = some d) := by
  rw [readFields?_eq] at h
  simp only [Option.bind_eq_bind, Option.bind_eq_some_iff, Prod.exists] at h
  obtain ⟨year, rest, hyear, rest', hskip, h⟩ := h
  obtain ⟨rfl, hlt⟩ := (readCount?_eq_some_iff_padded (by decide)).mp hyear
  obtain hrest := skipDash?_eq_some_iff.mp hskip
  refine ⟨year, rest.head? == some '-', hlt, ?_⟩
  unfold partsFields? at h
  split at h
  · rename_i rest''
    exact .inl ⟨rest'', by rw [← hrest], h⟩
  · exact .inr ⟨rest', by rw [← hrest], h⟩

theorem monthFields?_eq_some_iff : monthFields? dash year s = some d ↔
    ∃ month day tail, s = padded 2 month ++ (dashIf dash ++ (padded 2 day ++ tail))
      ∧ month < 100 ∧ day < 100 ∧ d = ⟨year, month, day⟩ := by
  simp only [monthFields?, Option.bind_eq_bind, Option.bind_eq_some_iff, Prod.exists,
    readCount?_eq_some_iff_padded (Nat.zero_lt_succ 1), skipDash?_eq_some_iff]
  constructor
  · rintro ⟨month, rest, ⟨rfl, hmonth⟩, rest', rfl, day, tail, ⟨rfl, hday⟩, h⟩
    exact ⟨month, day, tail, rfl, hmonth, hday, (Option.some.inj h).symm⟩
  · rintro ⟨month, day, tail, rfl, hmonth, hday, rfl⟩
    exact ⟨month, _, ⟨rfl, hmonth⟩, _, rfl, day, tail, ⟨rfl, hday⟩, rfl⟩

theorem weekFields?_eq_some_iff : weekFields? dash year s = some d ↔
    (∃ week, s = padded 2 week ∧ week < 100 ∧ ofWeek? year week 1 = some d)
      ∨ ∃ week weekday tail, s = padded 2 week ++ (dashIf dash ++ (padded 1 weekday ++ tail))
        ∧ week < 100 ∧ weekday < 10 ∧ ofWeek? year week weekday = some d := by
  simp only [weekFields?, Option.bind_eq_bind, Option.bind_eq_some_iff, Prod.exists,
    readCount?_eq_some_iff_padded (Nat.zero_lt_succ 1)]
  constructor
  · rintro ⟨week, rest, ⟨rfl, hweek⟩, h⟩
    split at h
    · rename_i hempty
      obtain rfl := List.isEmpty_iff.mp hempty
      exact .inl ⟨week, List.append_nil _, hweek, h⟩
    · simp only [Option.bind_eq_some_iff, Prod.exists, skipDash?_eq_some_iff,
        readCount?_eq_some_iff_padded Nat.zero_lt_one] at h
      obtain ⟨rest', rfl, weekday, tail, ⟨rfl, hweekday⟩, h⟩ := h
      exact .inr ⟨week, weekday, tail, rfl, hweek, hweekday, h⟩
  · rintro (⟨week, rfl, hweek, h⟩ | ⟨week, weekday, tail, rfl, hweek, hweekday, h⟩)
    · exact ⟨week, [], ⟨(List.append_nil _).symm, hweek⟩, h⟩
    · refine ⟨week, _, ⟨rfl, hweek⟩, ?_⟩
      obtain ⟨c, ds, hdigits, -⟩ := exists_padded_eq_cons Nat.zero_lt_one hweekday
      have hrest : ¬ (dashIf dash ++ (padded 1 weekday ++ tail)).isEmpty = true := by
        simp [hdigits]
      rw [if_neg hrest]
      simp only [Option.bind_eq_some_iff, Prod.exists, skipDash?_eq_some_iff,
        readCount?_eq_some_iff_padded Nat.zero_lt_one]
      exact ⟨_, rfl, weekday, tail, ⟨rfl, hweekday⟩, h⟩

end Fields

/-! ## Sizes -/

section Sizes

variable {d : Date} {form : List Char} {dash : Bool}

/-- A character of a form. -/
def IsPlain (c : Char) : Prop := c.isDigit = true ∨ c = '-' ∨ c = 'W'

theorem IsPlain.utf8Size {c : Char} (h : IsPlain c) : c.utf8Size = 1 := by
  rcases h with h | rfl | rfl
  · have hnine : c.toNat ≤ 57 := (Char.isDigit_iff_toNat.mp h).2
    have hval : c.val ≤ 127 := UInt32.le_iff_toNat_le.mpr (Nat.le_trans hnine (by decide))
    exact Char.utf8Size_eq_one_iff.mpr hval
  · rfl
  · rfl

theorem utf8ByteSize_of_plain {s : List Char} (h : ∀ c ∈ s, IsPlain c) :
    (String.ofList s).utf8ByteSize = s.length := by
  induction s with
  | nil => rfl
  | cons c s ih =>
    obtain ⟨hc, hs⟩ := List.forall_mem_cons.mp h
    have hcons : String.ofList (c :: s) = String.singleton c ++ String.ofList s := by
      rw [← String.toList_inj]
      simp
    rw [hcons, String.utf8ByteSize_append, String.utf8ByteSize_singleton, hc.utf8Size, ih hs,
      List.length_cons, Nat.add_comm]

theorem isDigits_padded (width n : Nat) : IsDigits (padded width n) :=
  (IsDigits.zeros _).append (IsDigits.toDigits n)

/-- A form consists of digits, dashes and the letter of weeks. -/
theorem HasForm.isPlain (h : d.HasForm form) : ∀ c ∈ form, IsPlain c := by
  have hdigits (width n : Nat) : ∀ c ∈ padded width n, IsPlain c := fun c hc =>
    .inl (isDigits_padded width n c hc)
  have hdash (dash : Bool) : ∀ c ∈ dashIf dash, IsPlain c := by
    intro c hc
    cases dash with
    | false => cases hc
    | true => exact .inr (.inl (List.mem_singleton.mp hc))
  have hletter : IsPlain 'W' := .inr (.inr rfl)
  cases h with
  | calendar dash =>
    simp only [List.forall_mem_append]
    exact ⟨hdigits _ _, hdash _, hdigits _ _, hdash _, hdigits _ _⟩
  | weekday dash =>
    simp only [List.forall_mem_append, List.forall_mem_cons]
    exact ⟨hdigits _ _, hdash _, hletter, hdigits _ _, hdash _, hdigits _ _⟩
  | week dash =>
    simp only [List.forall_mem_append, List.forall_mem_cons]
    exact ⟨hdigits _ _, hdash _, hletter, hdigits _ _⟩

theorem not_dash_padded (width n : Nat) : '-' ∉ padded width n := fun h => by
  cases isDigits_padded width n _ h

/-- A form with all its parts takes ten characters with dashes, and eight without. -/
def IsComplete (form : List Char) : Prop := form.length = 10 ∨ form.length = 8 ∧ '-' ∉ form

theorem isComplete_of_parts {year middle last : List Char} (dash : Bool) (hyear : '-' ∉ year)
    (hmiddle : '-' ∉ middle) (hlast : '-' ∉ last)
    (hlength : year.length + middle.length + last.length = 8) :
    IsComplete (year ++ (dashIf dash ++ (middle ++ (dashIf dash ++ last)))) := by
  cases dash with
  | true =>
    left
    simp only [dashIf, List.length_append, List.length_cons, List.length_nil]
    omega
  | false =>
    right
    simp only [dashIf, List.nil_append, List.length_append, List.mem_append, not_or]
    exact ⟨by omega, hyear, hmiddle, hlast⟩

theorem isComplete_calendar (dash : Bool) {year month day : Nat} (hyear : year < 10000)
    (hmonth : month < 100) (hday : day < 100) : IsComplete
      (padded 4 year ++ (dashIf dash ++ (padded 2 month ++ (dashIf dash ++ padded 2 day)))) :=
  isComplete_of_parts dash (not_dash_padded 4 year) (not_dash_padded 2 month)
    (not_dash_padded 2 day) (by simp [length_padded, hyear, hmonth, hday])

theorem isComplete_weekday (dash : Bool) {year week weekday : Nat} (hyear : year < 10000)
    (hweek : week < 100) (hweekday : weekday < 10) : IsComplete
      (padded 4 year
        ++ (dashIf dash ++ 'W' :: (padded 2 week ++ (dashIf dash ++ padded 1 weekday)))) := by
  have hmiddle : '-' ∉ 'W' :: padded 2 week := by simp [not_dash_padded]
  exact isComplete_of_parts dash (not_dash_padded 4 year) hmiddle (not_dash_padded 1 weekday)
    (by simp [length_padded, hyear, hweek, hweekday])

/-- A form takes seven, eight or ten characters. -/
theorem HasForm.length (hd : d.isValid = true) (h : d.HasForm form) :
    form.length = 7 ∨ form.length = 8 ∨ form.length = 10 := by
  have hcomplete {form : List Char} (h : IsComplete form) :
      form.length = 7 ∨ form.length = 8 ∨ form.length = 10 :=
    .inr (h.symm.imp And.left id)
  cases h with
  | calendar dash =>
    obtain ⟨hmonth, hday⟩ := month_day_lt hd
    exact hcomplete (isComplete_calendar dash (year_lt hd) hmonth hday)
  | weekday dash hyear hdate =>
    obtain ⟨-, hweek, -, hseven⟩ := hdate.bounds
    exact hcomplete (isComplete_weekday dash hyear (by omega) (by omega))
  | @week dash year week hyear hdate =>
    obtain ⟨-, hweek, -, -⟩ := hdate.bounds
    have hyears : (padded 4 year).length = 4 := length_padded (by decide) hyear
    have hweeks : (padded 2 week).length = 2 := length_padded (by decide) (by omega)
    cases dash with
    | true | false => simp [dashIf, hyears, hweeks]

/-- **A text of the right size gives a date with what is behind its form.** -/
theorem HasForm.gives (h : d.HasForm form) (hcomplete : IsComplete form) (tail : List Char)
    (hsize : [7, 8, 10].contains (String.ofList (form ++ tail)).utf8ByteSize = true) :
    d.Gives (form ++ tail) := by
  rw [String.ofList_append, String.utf8ByteSize_append, utf8ByteSize_of_plain h.isPlain] at hsize
  simp only [List.contains_cons, List.contains_nil, Bool.or_false, Bool.or_eq_true, beq_iff_eq]
    at hsize
  by_cases htail : (String.ofList tail).utf8ByteSize = 0
  · have hnil : tail = [] := by
      rw [String.utf8ByteSize_eq_zero_iff] at htail
      simpa using congrArg String.toList htail
    rw [hnil, List.append_nil]
    exact .whole h
  · rcases hcomplete with hten | ⟨height, hdash⟩
    · omega
    · exact .followed h height hdash (by omega)

end Sizes

/-! ## Texts -/

section Texts

variable {d : Date} {form : List Char} {s : String}

/-- What is read of a text is a form of a date and what may be behind it. -/
theorem gives_of_readFields? {s : List Char} (hread : readFields? s = some d)
    (hd : d.isValid = true)
    (hsize : [7, 8, 10].contains (String.ofList s).utf8ByteSize = true) : d.Gives s := by
  obtain ⟨year, dash, hyear, ⟨rest, rfl, hweeks⟩ | ⟨rest, rfl, hmonths⟩⟩ := exists_year hread
  · rcases weekFields?_eq_some_iff.mp hweeks with
      ⟨week, rfl, hweek, hdate⟩ | ⟨week, weekday, tail, rfl, hweek, hweekday, hdate⟩
    · exact .whole (.week dash hyear ((ofWeek?_eq_some_iff hd).mp hdate))
    · have hform := HasForm.weekday dash hyear ((ofWeek?_eq_some_iff hd).mp hdate)
      have hgives := hform.gives (isComplete_weekday dash hyear hweek hweekday) tail
      simp only [List.append_assoc, List.cons_append] at hgives
      exact hgives hsize
  · obtain ⟨month, day, tail, rfl, hmonth, hday, rfl⟩ := monthFields?_eq_some_iff.mp hmonths
    have hform : HasForm ⟨year, month, day⟩ _ := HasForm.calendar dash
    have hgives := hform.gives (isComplete_calendar dash hyear hmonth hday) tail
    simp only [List.append_assoc] at hgives
    exact hgives hsize

/-- **The date of a form is read off it**, and a complete form may have something behind it. -/
theorem HasForm.readFields? {tail : List Char} (hd : d.isValid = true) (h : d.HasForm form)
    (htail : tail = [] ∨ form.length = 8 ∧ '-' ∉ form) :
    Date.readFields? (form ++ tail) = some d := by
  cases h with
  | calendar dash =>
    obtain ⟨hmonth, hday⟩ := month_day_lt hd
    have hwidth : d.month < 10 ^ 2 := hmonth
    obtain ⟨c, ds, hdigits, hc⟩ := exists_padded_eq_cons (Nat.zero_lt_succ 1) hwidth
    have hother {e : Char} (he : e.isDigit = false) : c ≠ e := by
      rintro rfl
      cases hc.symm.trans he
    have hfields : partsFields? dash d.year
          (padded 2 d.month ++ (dashIf dash ++ (padded 2 d.day ++ tail)))
        = monthFields? dash d.year
          (padded 2 d.month ++ (dashIf dash ++ (padded 2 d.day ++ tail))) := by
      rw [hdigits]
      simp [partsFields?, hother (e := 'W') rfl]
    simp only [List.append_assoc]
    rw [readFields?_year (year_lt hd) (by simp [hdigits, hother (e := '-') rfl]), hfields]
    exact monthFields?_eq_some_iff.mpr ⟨d.month, d.day, tail, rfl, hmonth, hday, rfl⟩
  | weekday dash hyear hdate =>
    obtain ⟨-, hweek, -, hseven⟩ := hdate.bounds
    simp only [List.append_assoc, List.cons_append]
    rw [readFields?_year hyear (by simp)]
    exact weekFields?_eq_some_iff.mpr (.inr ⟨_, _, tail, rfl, by omega, by omega,
      (ofWeek?_eq_some_iff hd).mpr hdate⟩)
  | @week dash year week hyear hdate =>
    obtain ⟨-, hweek, -, -⟩ := hdate.bounds
    rcases htail with rfl | ⟨height, hnone⟩
    · rw [List.append_nil, readFields?_year hyear (by simp)]
      exact weekFields?_eq_some_iff.mpr (.inl ⟨_, rfl, by omega,
        (ofWeek?_eq_some_iff hd).mpr hdate⟩)
    · -- a week without a weekday takes eight characters only with a dash
      have hyears : (padded 4 year).length = 4 := length_padded (by decide) hyear
      have hweeks : (padded 2 week).length = 2 := length_padded (by decide) (by omega)
      cases dash with
      | true => exact absurd (by simp [dashIf]) hnone
      | false => simp [dashIf, hyears, hweeks] at height

/-- **Which texts give a date.** -/
theorem read?_eq_some_iff : read? s = some d ↔ d.isValid = true ∧ d.Gives s.toList := by
  rw [read?]
  constructor
  · intro h
    split at h
    · rename_i hsize
      obtain ⟨hread, hd⟩ := Option.filter_eq_some_iff.mp h
      refine ⟨hd, gives_of_readFields? hread hd ?_⟩
      rw [String.ofList_toList]
      exact hsize
    · cases h
  · rintro ⟨hd, hgives⟩
    obtain ⟨chars, rfl⟩ : ∃ chars, s = String.ofList chars := ⟨_, (String.ofList_toList).symm⟩
    rw [String.toList_ofList] at hgives ⊢
    cases hgives with
    | whole hform =>
      have hread := hform.readFields? hd (.inl rfl)
      rw [List.append_nil] at hread
      rw [utf8ByteSize_of_plain hform.isPlain, if_pos, hread, Option.filter_some, if_pos hd]
      rcases hform.length hd with h | h | h <;> rw [h] <;> rfl
    | followed hform height hdash htail =>
      rw [String.ofList_append, String.utf8ByteSize_append, utf8ByteSize_of_plain hform.isPlain,
        htail, height, hform.readFields? hd (.inr ⟨height, hdash⟩), Option.filter_some, if_pos hd]
      rfl

/-- The calendar form of a date gives that date. -/
theorem gives_text (d : Date) : d.Gives d.text.toList := by
  have hform := Gives.whole (HasForm.calendar (d := d) true)
  rw [text, String.toList_ofList]
  simpa [dashIf] using hform

/-- **What is written is read again.** -/
theorem read?_text (hd : d.isValid = true) : read? d.text = some d :=
  read?_eq_some_iff.mpr ⟨hd, gives_text d⟩

end Texts

end Date

end CardQuery

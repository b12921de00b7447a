import CardQuery.Proofs.Calendar.Order

/-!
# Proofs/Calendar/Week — days in order, and the dates of weeks

* `compare_ordinal` — dates compare by year, month and day as their days follow each other.
* `ofWeek?_eq_some_iff` — the date of a weekday of a week is the day of that weekday in the week
  whose Thursday is the one of that number in the year.

Days are counted through years and months by their lengths.  The first of January of the year one
was a Monday, which fixes the weekdays of all days.
-/

namespace CardQuery

namespace Date

/-! ## Days -/

/-- The number of days before a year, from the year one on. -/
def daysBefore (year : Nat) : Nat := ((List.range (year - 1)).map fun y => yearLength (y + 1)).sum

/-- The number of days before a month in its year. -/
def daysBeforeMonth (year month : Nat) : Nat := ((monthLengths year).take (month - 1)).sum

/-- The number of a day, counted from the first of January of the year one. -/
def ordinal (d : Date) : Nat := daysBefore d.year + (daysBeforeMonth d.year d.month + (d.day - 1))

/-- A month of a year and a day of the month. -/
structure InYear (d : Date) : Prop where
  month_pos : 1 ≤ d.month
  day_pos : 1 ≤ d.day
  day_le : ∃ length, (monthLengths d.year)[d.month - 1]? = some length ∧ d.day ≤ length

theorem isValid_iff {d : Date} : d.isValid = true ↔ 1 ≤ d.year ∧ d.year ≤ 9999 ∧ d.InYear := by
  simp only [isValid, Bool.and_eq_true, decide_eq_true_eq, Option.any_eq_true]
  constructor
  · rintro ⟨⟨⟨⟨hyear, hlast⟩, hmonth⟩, hday⟩, hlength⟩
    exact ⟨hyear, hlast, hmonth, hday, hlength⟩
  · rintro ⟨hyear, hlast, hmonth, hday, hlength⟩
    exact ⟨⟨⟨⟨hyear, hlast⟩, hmonth⟩, hday⟩, hlength⟩

section Days

variable {d e : Date} {year month : Nat}

theorem daysBefore_succ (h : 1 ≤ year) :
    daysBefore (year + 1) = daysBefore year + yearLength year := by
  obtain ⟨y, rfl⟩ := Nat.exists_eq_add_of_le' h
  simp [daysBefore, List.range_succ]

theorem daysBefore_mono : Monotone daysBefore := by
  refine monotone_nat_of_le_succ fun year => ?_
  cases year with
  | zero => exact Nat.le_refl 0
  | succ y =>
    rw [daysBefore_succ (Nat.succ_pos y)]
    exact Nat.le_add_right ..

theorem daysBeforeMonth_succ (h : 1 ≤ month) : daysBeforeMonth year (month + 1)
    = daysBeforeMonth year month + (monthLengths year)[month - 1]?.getD 0 := by
  obtain ⟨m, rfl⟩ := Nat.exists_eq_add_of_le' h
  simp only [daysBeforeMonth, Nat.add_sub_cancel, List.take_add_one, List.sum_append]
  cases (monthLengths year)[m]? <;> simp

theorem daysBeforeMonth_mono : Monotone (daysBeforeMonth year) := by
  refine monotone_nat_of_le_succ fun month => ?_
  cases month with
  | zero => exact Nat.le_refl 0
  | succ m =>
    rw [daysBeforeMonth_succ (Nat.succ_pos m)]
    exact Nat.le_add_right ..

/-- A year consists of its twelve months. -/
theorem daysBeforeMonth_thirteen : daysBeforeMonth year 13 = yearLength year := by
  rw [daysBeforeMonth, monthLengths, yearLength]
  split <;> rfl

/-- A day of a month comes before the next month. -/
theorem InYear.before_next_month (h : d.InYear) :
    daysBeforeMonth d.year d.month + (d.day - 1) < daysBeforeMonth d.year (d.month + 1) := by
  obtain ⟨length, hlength, hday⟩ := h.day_le
  rw [daysBeforeMonth_succ h.month_pos, hlength, Option.getD_some]
  have := h.day_pos
  omega

theorem InYear.before_next_year (h : d.InYear) (hyear : 1 ≤ d.year) :
    daysBefore d.year + (daysBeforeMonth d.year d.month + (d.day - 1))
      < daysBefore (d.year + 1) := by
  obtain ⟨length, hlength, -⟩ := h.day_le
  have hmonth : d.month - 1 < 12 := (List.getElem?_eq_some_iff.mp hlength).1
  have hmonths : daysBeforeMonth d.year (d.month + 1) ≤ daysBeforeMonth d.year 13 :=
    daysBeforeMonth_mono (by omega)
  have hday := h.before_next_month
  rw [daysBeforeMonth_thirteen] at hmonths
  rw [daysBefore_succ hyear]
  omega

/-- **Dates compare as their days follow each other.** -/
theorem compare_ordinal (hd : d.InYear) (he : e.InYear) (hdyear : 1 ≤ d.year)
    (heyear : 1 ≤ e.year) : compare d.ordinal e.ordinal = d.order e := by
  rw [ordinal, ordinal, order, compare_steps daysBefore_mono (hd.before_next_year hdyear)
    (he.before_next_year heyear)]
  by_cases hyear : d.year = e.year
  · have hmonth := he.before_next_month
    have hone : compare (d.day - 1) (e.day - 1) = compare d.day e.day := by
      have hdpos := hd.day_pos
      have hepos := he.day_pos
      have hlt : d.day - 1 < e.day - 1 ↔ d.day < e.day := by omega
      have hgt : e.day - 1 < d.day - 1 ↔ e.day < d.day := by omega
      simp only [Nat.compare_eq_ite_lt, hlt, hgt]
    rw [← hyear] at hmonth ⊢
    rw [compare_steps daysBeforeMonth_mono hd.before_next_month hmonth, hone]
  · have hne : compare d.year e.year ≠ .eq := fun h => hyear (Nat.compare_eq_eq.mp h)
    cases hcompare : compare d.year e.year with
    | eq => exact absurd hcompare hne
    | lt | gt => rfl

/-- **A day has one date.** -/
theorem InYear.eq_of_ordinal (hd : d.InYear) (he : e.InYear) (hdyear : 1 ≤ d.year)
    (heyear : 1 ≤ e.year) (h : d.ordinal = e.ordinal) : d = e := by
  have hsame := compare_ordinal hd he hdyear heyear
  rw [h, Nat.compare_eq_eq.mpr rfl, order] at hsame
  obtain ⟨hyear, hmonth, hday⟩ : d.year = e.year ∧ d.month = e.month ∧ d.day = e.day := by
    simpa only [Ordering.then_eq_eq, Nat.compare_eq_eq] using hsame.symm
  obtain ⟨year, month, day⟩ := d
  obtain ⟨year', month', day'⟩ := e
  obtain rfl : year = year' := hyear
  obtain rfl : month = month' := hmonth
  obtain rfl : day = day' := hday
  rfl

end Days

/-! ## The days of a year -/

section Months

variable {year day : Nat}

/-- A day is counted off by the lengths of the months. -/
theorem exists_inMonths (year month : Nat) {lengths : List Nat} (h : day < lengths.sum) :
    ∃ i k length, inMonths year month lengths day = ⟨year, month + i, k + 1⟩
      ∧ lengths[i]? = some length ∧ k < length ∧ (lengths.take i).sum + k = day := by
  induction lengths generalizing month day with
  | nil => cases h
  | cons length rest ih =>
    rw [inMonths]
    split
    · rename_i hday
      exact ⟨0, day, length, rfl, rfl, hday, Nat.zero_add day⟩
    · rename_i hday
      rw [List.sum_cons] at h
      have hrest : day - length < rest.sum := by omega
      obtain ⟨i, k, length', hdate, hlength, hk, hsum⟩ := ih (month + 1) hrest
      refine ⟨i + 1, k, length', ?_, hlength, hk, ?_⟩
      · rw [hdate, Nat.add_assoc, Nat.add_comm 1 i]
      · rw [List.take_succ_cons, List.sum_cons, Nat.add_assoc, hsum]
        omega

/-- **The date of a day of a year** is that many days after its first one. -/
theorem ofDayOfYear_spec (h : day < yearLength year) :
    (ofDayOfYear year day).InYear ∧ (ofDayOfYear year day).year = year
      ∧ (ofDayOfYear year day).ordinal = daysBefore year + day := by
  rw [← daysBeforeMonth_thirteen] at h
  have hsum : day < (monthLengths year).sum := h
  obtain ⟨i, k, length, hdate, hlength, hk, hday⟩ := exists_inMonths year 1 hsum
  rw [ofDayOfYear, hdate]
  refine ⟨⟨Nat.le_add_right 1 i, Nat.succ_pos k, length, ?_, hk⟩, rfl, ?_⟩
  · rw [Nat.add_sub_cancel_left]
    exact hlength
  · rw [ordinal, daysBeforeMonth, Nat.add_sub_cancel_left, Nat.add_sub_cancel, hday]

end Months

/-! ## Weeks -/

/-- The weekday of a date, counted from one for Monday. -/
def weekday (d : Date) : Nat := d.ordinal % 7 + 1

/-- The number of the Thursday in the week of a date. -/
def thursday (d : Date) : Nat := d.ordinal + 4 - d.weekday

/-- **A date is a weekday of a week of a year**: the Thursday of that week lies in the year, and is
the one of that number in it. -/
structure IsWeekDate (d : Date) (year week weekday : Nat) : Prop where
  weekday_eq : d.weekday = weekday
  year_le : daysBefore year ≤ d.thursday
  lt_next : d.thursday < daysBefore (year + 1)
  week_eq : (d.thursday - daysBefore year) / 7 + 1 = week

section Weeks

variable {d : Date} {year week weekday : Nat}

theorem yearLength_cases (year : Nat) : yearLength year = 365 ∨ yearLength year = 366 := by
  rw [yearLength]
  split
  · exact .inr rfl
  · exact .inl rfl

theorem yearLength_eq (year : Nat) : yearLength year
    = if year % 4 = 0 ∧ (year % 100 ≠ 0 ∨ year % 400 = 0) then 366 else 365 := by
  simp [yearLength, isLeap]

/-- The leap days before a year are one in four years, but for the centuries that are no multiple of
four hundred years. -/
theorem daysBefore_eq (year : Nat) : daysBefore year
    = 365 * (year - 1) + (year - 1) / 4 - (year - 1) / 100 + (year - 1) / 400 := by
  cases year with
  | zero => rfl
  | succ y =>
    induction y with
    | zero => rfl
    | succ y ih =>
      rw [daysBefore_succ (Nat.succ_pos y), ih, yearLength_eq]
      split
      · omega
      · omega

theorem firstWeekday_eq (year : Nat) : firstWeekday year = daysBefore year % 7 := by
  rw [daysBefore_eq, firstWeekday]

/-- The number of a weekday of a week, counted from the Monday of the week in which the year
begins. -/
def weekDays (year week weekday : Nat) : Nat :=
  (if firstWeekday year ≤ 3 then week - 1 else week) * 7 + (weekday - 1)

/-- The last week ends in the week after the year at the latest. -/
theorem weekDays_le (hlast : week ≤ weekCount year) (hseven : weekday ≤ 7) :
    weekDays year week weekday ≤ 370 := by
  rw [weekDays]
  rw [weekCount] at hlast
  split at hlast
  · rename_i hlong
    simp only [Bool.or_eq_true, Bool.and_eq_true, beq_iff_eq] at hlong
    rw [if_pos (by omega)]
    omega
  · split <;> omega

theorem ofWeek?_eq_some (h : ofWeek? year week weekday = some d) :
    1 ≤ year ∧ 1 ≤ week ∧ week ≤ weekCount year ∧ 1 ≤ weekday ∧ weekday ≤ 7 := by
  rw [ofWeek?] at h
  split at h
  · rename_i hguard
    simpa only [Bool.and_eq_true, decide_eq_true_eq, and_assoc] using hguard
  · cases h

/-- **What a week asks for is the date of a day.** -/
theorem exists_ofWeek? (hyear : 1 ≤ year) (hweek : 1 ≤ week) (hlast : week ≤ weekCount year)
    (hweekday : 1 ≤ weekday) (hseven : weekday ≤ 7) :
    ∃ e, ofWeek? year week weekday = some e ∧ e.InYear ∧ 1 ≤ e.year
      ∧ e.ordinal + firstWeekday year = daysBefore year + weekDays year week weekday := by
  have hguard : (1 ≤ year && 1 ≤ week && week ≤ weekCount year && 1 ≤ weekday && weekday ≤ 7)
      = true := by
    simp [hyear, hweek, hlast, hweekday, hseven]
  have hfirst := firstWeekday_eq year
  have hlength := yearLength_cases year
  have hdays := weekDays_le hlast hseven
  rw [ofWeek?, if_pos hguard]
  dsimp only
  rw [← weekDays]
  generalize weekDays year week weekday = days at hdays ⊢
  split
  · rename_i hbefore
    -- no year comes before the first one, which begins on a Monday
    have hformer : 1 ≤ year - 1 := by
      by_contra hone
      obtain rfl : year = 1 := by omega
      exact absurd hbefore (by simp [firstWeekday])
    have hyears := daysBefore_succ hformer
    rw [Nat.sub_add_cancel hyear] at hyears
    have hlong := yearLength_cases (year - 1)
    have hwithin : yearLength (year - 1) + days - firstWeekday year < yearLength (year - 1) := by
      omega
    obtain ⟨hin, hof, hday⟩ := ofDayOfYear_spec hwithin
    exact ⟨_, rfl, hin, by omega, by omega⟩
  split
  · rename_i hwithin
    obtain ⟨hin, hof, hday⟩ := ofDayOfYear_spec hwithin
    exact ⟨_, rfl, hin, by omega, by omega⟩
  · have hyears := daysBefore_succ hyear
    have hnext := yearLength_cases (year + 1)
    have hwithin : days - firstWeekday year - yearLength year < yearLength (year + 1) := by omega
    obtain ⟨hin, hof, hday⟩ := ofDayOfYear_spec hwithin
    exact ⟨_, rfl, hin, by omega, by omega⟩

/-- A year has 53 weeks if it has a Thursday more than other years. -/
theorem weekCount_eq (year : Nat) : weekCount year
    = if firstWeekday year = 3 ∨ firstWeekday year = 2 ∧ yearLength year = 366 then 53 else 52 := by
  simp [weekCount, yearLength]

/-- Which Thursday of a year the days of a week go round. -/
theorem isWeekDate_iff (hyear : 1 ≤ year) : d.IsWeekDate year week weekday ↔
    (1 ≤ week ∧ week ≤ weekCount year ∧ 1 ≤ weekday ∧ weekday ≤ 7)
      ∧ d.ordinal + firstWeekday year = daysBefore year + weekDays year week weekday := by
  have hfirst := firstWeekday_eq year
  have hnext := daysBefore_succ hyear
  have hdef : d.weekday = d.ordinal % 7 + 1 := rfl
  have hthursday : d.thursday = d.ordinal + 4 - d.weekday := rfl
  have hlength := yearLength_cases year
  rw [weekCount_eq, weekDays]
  constructor
  · rintro ⟨hweekday, hle, hlt, hweek⟩
    split <;> split <;> omega
  · rintro ⟨⟨hweek, hlast, hweekday, hseven⟩, hday⟩
    split at hday <;> split at hlast <;> exact ⟨by omega, by omega, by omega, by omega⟩

theorem IsWeekDate.year_pos (h : d.IsWeekDate year week weekday) : 1 ≤ year := by
  by_contra hzero
  obtain rfl : year = 0 := by omega
  exact absurd h.lt_next (Nat.not_lt_zero _)

theorem IsWeekDate.bounds (h : d.IsWeekDate year week weekday) :
    1 ≤ week ∧ week ≤ 53 ∧ 1 ≤ weekday ∧ weekday ≤ 7 := by
  obtain ⟨⟨hweek, hlast, hweekday, hseven⟩, -⟩ := (isWeekDate_iff h.year_pos).mp h
  rw [weekCount_eq] at hlast
  split at hlast <;> exact ⟨hweek, by omega, hweekday, hseven⟩

/-- **The date of a weekday of a week**, whatever years the week is part of. -/
theorem ofWeek?_eq_some_iff (hd : d.isValid = true) :
    ofWeek? year week weekday = some d ↔ d.IsWeekDate year week weekday := by
  obtain ⟨hdyear, -, hin⟩ := isValid_iff.mp hd
  constructor
  · intro h
    obtain ⟨hyear, hweek, hlast, hweekday, hseven⟩ := ofWeek?_eq_some h
    obtain ⟨e, he, -, -, hday⟩ := exists_ofWeek? hyear hweek hlast hweekday hseven
    obtain rfl : e = d := Option.some.inj (he.symm.trans h)
    exact (isWeekDate_iff hyear).mpr ⟨⟨hweek, hlast, hweekday, hseven⟩, hday⟩
  · intro h
    obtain ⟨⟨hweek, hlast, hweekday, hseven⟩, hday⟩ := (isWeekDate_iff h.year_pos).mp h
    obtain ⟨e, he, hin', heyear, hday'⟩ := exists_ofWeek? h.year_pos hweek hlast hweekday hseven
    rw [he, hin'.eq_of_ordinal hin heyear hdyear (by omega)]

/-- The first week of a year may begin in the year before. -/
example : ofWeek? 2009 1 1 = some ⟨2008, 12, 29⟩ := by decide

end Weeks

end Date

end CardQuery

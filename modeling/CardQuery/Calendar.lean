/-!
# Calendar — dates of the Gregorian calendar

A date is a year from 1 to 9999, a month and a day.  It is read from the calendar form, as in
`2020-01-31` or `20200131`, or from the week form, as in `2020-W05-5`, `2020W055` or, for the
Monday of a week, `2020-W05`; it is written in the calendar form, so that written dates compare like
the dates themselves.

Whatever form it has, a text has to take seven, eight or ten bytes, and what follows a complete date
in a text of ten bytes is passed over.
-/

namespace CardQuery

/-- A date. -/
structure Date where
  year : Nat
  month : Nat
  day : Nat
deriving DecidableEq, Repr

namespace Date

/-! ## Years, months and weeks -/

/-- Whether a year has a 29th of February. -/
def isLeap (year : Nat) : Bool := year % 4 == 0 && (year % 100 != 0 || year % 400 == 0)

/-- The lengths of the months of a year. -/
def monthLengths (year : Nat) : List Nat :=
  [31, if isLeap year then 29 else 28, 31, 30, 31, 30, 31, 31, 30, 31, 30, 31]

/-- The number of days of a year. -/
def yearLength (year : Nat) : Nat := if isLeap year then 366 else 365

/-- Whether year, month and day make a date. -/
def isValid (d : Date) : Bool :=
  1 ≤ d.year && d.year ≤ 9999 && 1 ≤ d.month && 1 ≤ d.day
    && ((monthLengths d.year)[d.month - 1]?).any (d.day ≤ ·)

/-- The weekday of the first of January, counted from Monday as zero. -/
def firstWeekday (year : Nat) : Nat :=
  let y := year - 1
  (365 * y + y / 4 - y / 100 + y / 400) % 7

/-- The number of weeks of a year: 53 if it begins on a Thursday, or on a Wednesday and is a leap
year. -/
def weekCount (year : Nat) : Nat :=
  if firstWeekday year == 3 || (firstWeekday year == 2 && isLeap year) then 53 else 52

/-- The date of a day of a year, counted from zero, given the lengths of the months from `month`
on. -/
def inMonths (year month : Nat) : List Nat → Nat → Date
  | [], day => ⟨year, month, day + 1⟩
  | length :: rest, day =>
    if day < length then ⟨year, month, day + 1⟩ else inMonths year (month + 1) rest (day - length)

/-- The date of a day of a year, counted from zero. -/
def ofDayOfYear (year day : Nat) : Date := inMonths year 1 (monthLengths year) day

/-- The date of a weekday, counted from one, of a week of a year.  The first week is the one with
the fourth of January in it, so that it may begin in the year before, and the last one may end in
the year after. -/
def ofWeek? (year week weekday : Nat) : Option Date :=
  if 1 ≤ year && 1 ≤ week && week ≤ weekCount year && 1 ≤ weekday && weekday ≤ 7 then
    let first := firstWeekday year
    -- the days from the Monday of the week that holds the first of January
    let days := (if first ≤ 3 then week - 1 else week) * 7 + (weekday - 1)
    if days < first then
      let former := year - 1
      some (ofDayOfYear former (yearLength former + days - first))
    else
      let day := days - first
      if day < yearLength year then some (ofDayOfYear year day)
      else some (ofDayOfYear (year + 1) (day - yearLength year))
  else none

/-! ## Reading and writing -/

/-- A number of exactly `count` digits at the head of a text, and the rest. -/
def readCount? (count : Nat) (s : List Char) : Option (Nat × List Char) :=
  let ds := s.take count
  if ds.length == count && ds.all Char.isDigit then
    some (ds.foldl (fun n c => 10 * n + (c.toNat - 48)) 0, s.drop count)
  else none

/-- The rest of a text after a dash, if one is called for. -/
def skipDash? : Bool → List Char → Option (List Char)
  | false, s => some s
  | true, '-' :: rest => some rest
  | true, _ => none

/-- The date at the head of a text. -/
def readFields? (s : List Char) : Option Date := do
  let (year, rest) ← readCount? 4 s
  let dashed := rest.head? == some '-'
  let rest ← skipDash? dashed rest
  match rest with
  | 'W' :: rest =>
    let (week, rest) ← readCount? 2 rest
    if rest.isEmpty then ofWeek? year week 1
    else
      let (weekday, _) ← readCount? 1 (← skipDash? dashed rest)
      ofWeek? year week weekday
  | rest =>
    let (month, rest) ← readCount? 2 rest
    let (day, _) ← readCount? 2 (← skipDash? dashed rest)
    return ⟨year, month, day⟩

/-- **The date that a text gives.** -/
def read? (s : String) : Option Date :=
  if [7, 8, 10].contains s.utf8ByteSize then (readFields? s.toList).filter isValid else none

/-- A number in at least `width` digits. -/
def padded (width n : Nat) : List Char :=
  let ds := Nat.toDigits 10 n
  List.replicate (width - ds.length) '0' ++ ds

/-- A date in the calendar form. -/
def text (d : Date) : String :=
  String.ofList (padded 4 d.year ++ '-' :: padded 2 d.month ++ '-' :: padded 2 d.day)

end Date

end CardQuery

import CardQuery.Text.Blank
import CardQuery.Text.Digit
import Mathlib.Data.List.TakeDrop

/-!
# Proofs/Text/Digit — digits are apart from blanks, and what digits write

* `isBlank_eq_false_of_isDigit` — no digit of any script is white space.
* `isDigit_ascii` — below the digits of other scripts, the digits are `0` to `9`.
* `IsDigits.readDigits_eq` — a text of the digits `0` to `9` is read as the number that it writes.

The first two are read off the tables: a digit lies within ten code points of a zero, a blank within
a span of the table, and the two tables are compared entry by entry.
-/

namespace CardQuery.Text

theorem Spans.exists_of_contains {spans : Spans} {n : Nat} (h : spans.contains n = true) :
    ∃ s ∈ spans, s.1 ≤ n ∧ n ≤ s.2 := by
  induction spans with
  | nil => cases h
  | cons s spans ih =>
    rw [contains] at h
    split at h
    · cases h
    rename_i hlo
    rcases Bool.or_eq_true_iff.mp h with hhi | hrest
    · exact ⟨s, List.mem_cons_self, by omega, of_decide_eq_true hhi⟩
    · obtain ⟨t, ht, hn⟩ := ih hrest
      exact ⟨t, List.mem_cons_of_mem s ht, hn⟩

theorem exists_of_digitFrom {zeros : List Nat} {n : Nat} (h : (digitFrom zeros n).isSome = true) :
    ∃ z ∈ zeros, z ≤ n ∧ n < z + 10 := by
  induction zeros with
  | nil => cases h
  | cons z zeros ih =>
    rw [digitFrom] at h
    split at h
    · cases h
    split at h
    · exact ⟨z, List.mem_cons_self, by omega, by omega⟩
    · obtain ⟨y, hy, hn⟩ := ih h
      exact ⟨y, List.mem_cons_of_mem z hy, hn⟩

/-- Whether the digits of every script lie on one side of a span. -/
def clearOfDigits (s : Nat × Nat) : Bool :=
  scriptZeros.all fun z => Nat.blt s.2 z || Nat.ble (z + 10) s.1

/-- A code point in a span that is clear of digits is none. -/
theorem isDigit_eq_false {s : Nat × Nat} (h : clearOfDigits s = true) {c : Char}
    (hlo : s.1 ≤ c.toNat) (hhi : c.toNat ≤ s.2) : isDigit c = false := by
  rw [← Bool.not_eq_true]
  intro hc
  obtain ⟨z, hz, hz1, hz2⟩ := exists_of_digitFrom hc
  have hside := List.all_eq_true.mp h z hz
  simp only [Bool.or_eq_true, Nat.blt_eq, Nat.ble_eq] at hside
  omega

theorem blankSpans_clearOfDigits : blankSpans.all clearOfDigits = true := by decide

/-- **No digit is white space.** -/
theorem isBlank_eq_false_of_isDigit {c : Char} (h : isDigit c = true) : isBlank c = false := by
  rw [← Bool.not_eq_true]
  intro hblank
  obtain ⟨s, hs, hlo, hhi⟩ := Spans.exists_of_contains hblank
  rw [isDigit_eq_false (List.all_eq_true.mp blankSpans_clearOfDigits s hs) hlo hhi] at h
  cases h

/-- **The digits among the first characters are `0` to `9`.** -/
theorem isDigit_ascii {c : Char} (h : isDigit c = true) (hc : c.toNat < 0x660) :
    0x30 ≤ c.toNat ∧ c.toNat ≤ 0x39 := by
  have hbefore : ¬ c.toNat ≤ 0x2F := fun hle => by
    rw [isDigit_eq_false (s := (0, 0x2F)) (by decide) (Nat.zero_le _) hle] at h
    cases h
  have hafter : ¬ 0x3A ≤ c.toNat := fun hle => by
    rw [isDigit_eq_false (s := (0x3A, 0x65F)) (by decide) hle (Nat.le_of_lt_succ hc)] at h
    cases h
  omega

/-- A character that is not a capital letter stays as it is in lower case. -/
theorem toLower_eq_self {c : Char} (h : c.toNat < 0x41 ∨ 0x5A < c.toNat) : c.toLower = c := by
  refine dif_neg ?_
  rintro ⟨hlo, hhi⟩
  have hlo' : 0x41 ≤ c.toNat := UInt32.le_iff_toNat_le.mp hlo
  have hhi' : c.toNat ≤ 0x5A := UInt32.le_iff_toNat_le.mp hhi
  omega

theorem toLower_of_isDigit {c : Char} (h : isDigit c = true) : c.toLower = c := by
  refine toLower_eq_self ?_
  by_cases hc : c.toNat < 0x660
  · have := isDigit_ascii h hc
    omega
  · omega

end CardQuery.Text

namespace CardQuery

/-! ## The digits of numbers -/

/-- A text of the digits that numbers are written with. -/
def IsDigits (ds : List Char) : Prop := ∀ c ∈ ds, c.isDigit = true

namespace IsDigits

variable {ds es : List Char}

theorem append (hds : IsDigits ds) (hes : IsDigits es) : IsDigits (ds ++ es) :=
  List.forall_mem_append.mpr ⟨hds, hes⟩

theorem zeros (n : Nat) : IsDigits (List.replicate n '0') := fun c hc => by
  rw [List.eq_of_mem_replicate hc]
  rfl

theorem take (hds : IsDigits ds) (n : Nat) : IsDigits (ds.take n) := fun c hc =>
  hds c (List.mem_of_mem_take hc)

theorem drop (hds : IsDigits ds) (n : Nat) : IsDigits (ds.drop n) := fun c hc =>
  hds c (List.mem_of_mem_drop hc)

theorem toDigits (n : Nat) : IsDigits (Nat.toDigits 10 n) := fun _ hc =>
  Nat.isDigit_of_mem_toDigits (by decide) (by decide) hc

/-- Digits are spanned up to the first other character. -/
theorem span (hds : IsDigits ds) {rest : List Char} (hrest : ∀ c ∈ rest.head?, c.isDigit = false) :
    (ds ++ rest).span Char.isDigit = (ds, rest) := by
  rw [List.span_eq_takeWhile_dropWhile, List.takeWhile_append_of_pos hds,
    List.dropWhile_append_of_pos hds]
  cases rest with
  | nil => simp
  | cons c rest => simp [hrest c rfl]

theorem digitValue?_eq {c : Char} (hc : c.isDigit = true) :
    Text.digitValue? c = some (c.toNat - 48) := by
  obtain ⟨hlo, hhi⟩ := Char.isDigit_iff_toNat.mp hc
  have hlo' : ¬ c.toNat < 48 := Nat.not_lt.mpr hlo
  have hhi' : c.toNat < 48 + 10 := Nat.lt_succ_of_le hhi
  rw [Text.digitValue?, Text.scriptZeros, Text.digitFrom, if_neg hlo', if_pos hhi']

theorem isDigit (hds : IsDigits ds) : ∀ c ∈ ds, Text.isDigit c = true := fun c hc => by
  rw [Text.isDigit, digitValue?_eq (hds c hc)]
  rfl

/-- The number that digits write. -/
theorem readDigits_eq (hds : IsDigits ds) (n : Nat) :
    Text.readDigits n ds = Nat.ofDigitChars 10 ds n := by
  induction ds generalizing n with
  | nil => rfl
  | cons c ds ih =>
    have hvalue := digitValue?_eq (hds c List.mem_cons_self)
    have hstep : Text.readDigits n (c :: ds) = Text.readDigits (10 * n + (c.toNat - 48)) ds := by
      rw [Text.readDigits, List.foldl_cons, hvalue, Option.getD_some, ← Text.readDigits]
    rw [hstep, ih fun d hd => hds d (List.mem_cons_of_mem c hd), Nat.ofDigitChars_cons]
    rfl

end IsDigits

/-- No positive number is written with a zero at its head. -/
theorem exists_toDigits_eq_cons {n : Nat} (hn : 0 < n) :
    ∃ c ds, Nat.toDigits 10 n = c :: ds ∧ c ≠ '0' := by
  induction n using Nat.strongRecOn with
  | ind n ih =>
    by_cases hlt : n < 10
    · have hdigit : ∀ m < 10, 0 < m → Nat.digitChar m ≠ '0' := by decide
      exact ⟨Nat.digitChar n, [], Nat.toDigits_of_lt_base hlt, hdigit n hlt hn⟩
    · have hge : 10 ≤ n := Nat.not_lt.mp hlt
      obtain ⟨c, ds, hds, hc⟩ := ih (n / 10) (Nat.div_lt_self hn (by decide))
        (Nat.div_pos hge (by decide))
      refine ⟨c, ds ++ [Nat.digitChar (n % 10)], ?_, hc⟩
      rw [Nat.toDigits_of_base_le (by decide) hge, hds]
      rfl

end CardQuery

import CardQuery.Match
import CardQuery.Proofs.Calendar
import CardQuery.Proofs.Text.Digit
import Mathlib.Algebra.GroupWithZero.Nat
import Mathlib.Order.Monotone.Basic

/-!
# Proofs/Calendar/Order — written dates compare like dates

* `compare_digits` — two texts of equally many digits compare like the numbers that they write.
* `Writes.compare` — so the calendar forms of two dates compare by year, month and day.

Texts compare by their first difference (`compareOfLessAndEq_chars`), so that of two texts with
parts of the same length the first parts decide, and the second ones only if these are equal.
-/

namespace CardQuery

/-! ## Texts -/

theorem compareOfLessAndEq_chars (s t : List Char) : compareOfLessAndEq s t = compare s t := by
  induction s generalizing t with
  | nil =>
    cases t with
    | nil => rfl
    | cons d t => rfl
  | cons c s ih =>
    cases t with
    | nil => rfl
    | cons d t =>
      have hchar : compare c d = compareOfLessAndEq c d := rfl
      rw [List.compare_cons_cons, ← ih, hchar]
      unfold compareOfLessAndEq
      simp only [List.cons_lt_cons_iff, List.cons.injEq]
      by_cases heq : c = d
      · simp [heq]
      · by_cases hlt : c < d
        · simp [hlt]
        · simp [hlt, heq]

section Parts

variable {s t u v : List Char}

/-- The first parts decide, if they are of one length and differ. -/
theorem compare_append (h : s.length = t.length) :
    compare (s ++ u) (t ++ v) = (compare s t).then (compare u v) := by
  induction s generalizing t with
  | nil =>
    obtain rfl := List.eq_nil_of_length_eq_zero h.symm
    rfl
  | cons c s ih =>
    cases t with
    | nil => cases h
    | cons d t =>
      rw [List.cons_append, List.cons_append, List.compare_cons_cons, List.compare_cons_cons,
        ih (Nat.succ.inj h), Ordering.then_assoc]

end Parts

/-! ## Numbers -/

/-- Of two places on a stair the steps decide, if they differ. -/
theorem compare_steps {f : Nat → Nat} (hf : Monotone f) {m n k l : Nat}
    (hk : f m + k < f (m + 1)) (hl : f n + l < f (n + 1)) :
    compare (f m + k) (f n + l) = (compare m n).then (compare k l) := by
  rcases Nat.lt_trichotomy m n with hlt | rfl | hgt
  · have hstep : f (m + 1) ≤ f n := hf hlt
    rw [Nat.compare_eq_lt.mpr (by omega), Nat.compare_eq_lt.mpr hlt]
    rfl
  · rw [Nat.compare_eq_eq.mpr rfl, Ordering.eq_then]
    simp [Nat.compare_eq_ite_lt]
  · have hstep : f (n + 1) ≤ f m := hf hgt
    rw [Nat.compare_eq_gt.mpr (by omega), Nat.compare_eq_gt.mpr hgt]
    rfl

/-- Digits compare like what they are worth. -/
theorem compare_digit {c d : Char} (hc : c.isDigit = true) (hd : d.isDigit = true) :
    compare c d = compare (c.toNat - 48) (d.toNat - 48) := by
  have hc : 48 ≤ c.toNat := (Char.isDigit_iff_toNat.mp hc).1
  have hd : 48 ≤ d.toNat := (Char.isDigit_iff_toNat.mp hd).1
  have hlt : c < d ↔ c.toNat - 48 < d.toNat - 48 := by
    have hval : c < d ↔ c.toNat < d.toNat := UInt32.lt_iff_toNat_lt
    rw [hval]
    omega
  have heq : c = d ↔ c.toNat - 48 = d.toNat - 48 := by
    rw [← Char.toNat_inj]
    omega
  change compareOfLessAndEq c d = compareOfLessAndEq (c.toNat - 48) (d.toNat - 48)
  simp only [compareOfLessAndEq, hlt, heq]

/-- What a digit is worth at the head of others. -/
theorem ofDigitChars_cons_eq (c : Char) (ds : List Char) : Nat.ofDigitChars 10 (c :: ds) 0
    = 10 ^ ds.length * (c.toNat - 48) + Nat.ofDigitChars 10 ds 0 := by
  rw [Nat.ofDigitChars_cons, Nat.ofDigitChars_eq_ofDigitChars_zero, Nat.mul_zero, Nat.zero_add]
  rfl

theorem ofDigitChars_lt {ds : List Char} (h : IsDigits ds) :
    Nat.ofDigitChars 10 ds 0 < 10 ^ ds.length := by
  induction ds with
  | nil => exact Nat.one_pos
  | cons c ds ih =>
    obtain ⟨hc, hds⟩ := List.forall_mem_cons.mp h
    have hnine : c.toNat ≤ 57 := (Char.isDigit_iff_toNat.mp hc).2
    have hrest := ih hds
    have hlead : 10 ^ ds.length * (c.toNat - 48) ≤ 10 ^ ds.length * 9 :=
      Nat.mul_le_mul_left _ (by omega)
    rw [ofDigitChars_cons_eq, List.length_cons, Nat.pow_succ]
    omega

theorem compare_digits {ds es : List Char} (hds : IsDigits ds) (hes : IsDigits es)
    (h : ds.length = es.length) :
    compare ds es = compare (Nat.ofDigitChars 10 ds 0) (Nat.ofDigitChars 10 es 0) := by
  induction ds generalizing es with
  | nil =>
    obtain rfl := List.eq_nil_of_length_eq_zero h.symm
    rfl
  | cons c ds ih =>
    cases es with
    | nil => cases h
    | cons e es =>
      obtain ⟨hc, hds⟩ := List.forall_mem_cons.mp hds
      obtain ⟨he, hes⟩ := List.forall_mem_cons.mp hes
      have hlength : ds.length = es.length := Nat.succ.inj h
      have hmono : Monotone (10 ^ ds.length * ·) := fun _ _ h => Nat.mul_le_mul_left _ h
      have hstep {m k : Nat} (hk : k < 10 ^ ds.length) :
          10 ^ ds.length * m + k < 10 ^ ds.length * (m + 1) := by
        rw [Nat.mul_succ]
        exact Nat.add_lt_add_left hk _
      rw [ofDigitChars_cons_eq, ofDigitChars_cons_eq, ← hlength,
        compare_steps hmono (hstep (ofDigitChars_lt hds)) (hstep (hlength ▸ ofDigitChars_lt hes)),
        List.compare_cons_cons, ih hds hes hlength, compare_digit hc he]

/-- Texts of digits are the same if they are of one length and write the same number. -/
theorem IsDigits.eq_of_ofDigitChars {ds es : List Char} (hds : IsDigits ds) (hes : IsDigits es)
    (h : ds.length = es.length) (hvalue : Nat.ofDigitChars 10 ds 0 = Nat.ofDigitChars 10 es 0) :
    ds = es := by
  refine Std.compare_eq_iff_eq.mp ?_
  rw [compare_digits hds hes h, hvalue]
  exact Nat.compare_eq_eq.mpr rfl

/-! ## Dates -/

namespace Date

/-- Two dates by year, month and day. -/
def order (d e : Date) : Ordering :=
  (compare d.year e.year).then ((compare d.month e.month).then (compare d.day e.day))

/-- **What is read of a text of digits**: as many as are asked for, and the number that they
write. -/
theorem readCount?_eq_some_iff {count n : Nat} {s rest : List Char} :
    readCount? count s = some (n, rest) ↔
      ∃ ds, s = ds ++ rest ∧ ds.length = count ∧ IsDigits ds ∧ n = Nat.ofDigitChars 10 ds 0 := by
  rw [readCount?]
  constructor
  · intro h
    split at h
    · rename_i hform
      obtain ⟨hlength, hdigits⟩ := Bool.and_eq_true_iff.mp hform
      injection h with h
      injection h with hn hrest
      exact ⟨s.take count, by rw [← hrest, List.take_append_drop], eq_of_beq hlength,
        List.all_eq_true.mp hdigits, hn.symm⟩
    · cases h
  · rintro ⟨ds, rfl, rfl, hdigits, rfl⟩
    rw [List.take_left, List.drop_left, if_pos]
    · rfl
    · rw [beq_self_eq_true, Bool.true_and]
      exact List.all_eq_true.mpr hdigits

/-- Numbers of the same width compare like the texts that they are read from. -/
theorem compare_of_readCount? {count m n : Nat} {s t : List Char}
    (hs : readCount? count s = some (m, [])) (ht : readCount? count t = some (n, [])) :
    s.length = t.length ∧ compare s t = compare m n := by
  obtain ⟨ds, rfl, hlength, hds, rfl⟩ := readCount?_eq_some_iff.mp hs
  obtain ⟨es, rfl, hlength', hes, rfl⟩ := readCount?_eq_some_iff.mp ht
  have hsame : ds.length = es.length := hlength.trans hlength'.symm
  rw [List.append_nil, List.append_nil]
  exact ⟨hsame, compare_digits hds hes hsame⟩

/-- **Calendar forms compare by year, month and day.** -/
theorem Writes.compare {w v : String} {d e : Date} (hw : Writes w d) (hv : Writes v e) :
    compareOfLessAndEq w v = d.order e := by
  obtain ⟨year, month, day, hw, hyear, hmonth, hday⟩ := hw
  obtain ⟨year', month', day', hv, hyear', hmonth', hday'⟩ := hv
  obtain ⟨hyears, hyear⟩ := compare_of_readCount? hyear hyear'
  obtain ⟨hmonths, hmonth⟩ := compare_of_readCount? hmonth hmonth'
  obtain ⟨-, hday⟩ := compare_of_readCount? hday hday'
  have hdash (s t : List Char) : Ord.compare ('-' :: s) ('-' :: t) = Ord.compare s t := by
    rw [List.compare_cons_cons]
    rfl
  have hchars : compareOfLessAndEq w v = compareOfLessAndEq w.toList v.toList := by
    simp only [compareOfLessAndEq, String.lt_iff, String.toList_inj]
  rw [hchars, compareOfLessAndEq_chars, hw, hv, compare_append hyears, hdash,
    compare_append hmonths, hdash, hyear, hmonth, hday]
  rfl

end Date

/-! ## Cards -/

/-- Texts are compared as they are ordered. -/
theorem CompareOp.holds_strings (op : CompareOp) (s t : String) :
    op.holds (.string s) (some (.string t)) = .ok (op.admits (some (compareOfLessAndEq s t))) := by
  have hsame : (s == t) = (some (compareOfLessAndEq s t) == some .eq) := by
    rw [Bool.eq_iff_iff, beq_iff_eq, beq_iff_eq, Option.some_inj]
    exact (compareOfLessAndEq_eq_eq (fun _ => String.le_refl _) String.not_le).symm
  cases op with
  | colon | eq => exact congrArg Except.ok hsame
  | ne => exact congrArg (fun b => Except.ok !b) hsame
  | lt | le | gt | ge => rfl

/-- **A card with a date is compared with a date by the calendar.** -/
theorem matchDate_written {r w : String} {d e : Date} (hr : Date.Writes r d) (hw : Date.Writes w e)
    (op : CompareOp) :
    matchDate op (.keyword w) (.string r) = .ok (op.admits (some (d.order e))) := by
  have htruthy : (Json.string r).isTruthy = true := by
    obtain ⟨year, month, day, hr, -⟩ := hr
    have hne : r ≠ "" := by
      rintro rfl
      simp at hr
    simpa [Json.isTruthy] using hne
  rw [matchDate, if_pos htruthy, ← hr.compare hw]
  exact op.holds_strings r w

end CardQuery

import CardQuery.Number.Decimal
import Mathlib.Algebra.Group.Nat.Defs

/-!
# Proofs/Number/Rounding — the double nearest to a number

* `ofRatio_congr` — what a quotient is rounded to depends on its value alone.
* `ofDecimal_mul_pow` — and so does what a decimal is rounded to: zeros at the end of its digits are
  as good as a greater exponent.
* `ofDecimal_shortest` — the shortest decimal for a finite number rounds to that number.

A quotient that a double is equal to is rounded to that double (`ofRatio_exact`), so the decimal
with all digits of a number reads back, which is what `Double.shortest` falls back on.
-/

namespace CardQuery

/-! ## Quotients -/

theorem roundDiv_mul {k : Nat} (hk : 0 < k) (num den : Nat) :
    roundDiv (num * k) (den * k) = roundDiv num den := by
  have hquotient : num * k / (den * k) = num / den := Nat.mul_div_mul_right num den hk
  have hremainder : num * k % (den * k) = num % den * k := Nat.mul_mod_mul_right k num den
  have hbelow : 2 * (num % den * k) < den * k ↔ 2 * (num % den) < den := by
    rw [← Nat.mul_assoc]
    exact Nat.mul_lt_mul_right hk
  have habove : den * k < 2 * (num % den * k) ↔ den < 2 * (num % den) := by
    rw [← Nat.mul_assoc]
    exact Nat.mul_lt_mul_right hk
  simp only [roundDiv, hquotient, hremainder, hbelow, habove]

theorem roundDiv_exact {den : Nat} (hd : 0 < den) (n : Nat) : roundDiv (n * den) den = n := by
  rw [roundDiv, Nat.mul_div_cancel n hd, Nat.mul_mod_left, Nat.mul_zero, if_pos hd]

namespace Double

variable {negative : Bool}

theorem ofRatio_mul {k : Nat} (hk : 0 < k) (num den : Nat) :
    ofRatio negative (num * k) (den * k) = ofRatio negative num den := by
  have hunits : num * k * unitsPerOne = num * unitsPerOne * k := Nat.mul_right_comm ..
  have hquotient : num * unitsPerOne * k / (den * k) = num * unitsPerOne / den :=
    Nat.mul_div_mul_right _ den hk
  have hshift (s : Nat) : (den * k) <<< s = (den <<< s) * k := by
    rw [Nat.shiftLeft_eq, Nat.shiftLeft_eq, Nat.mul_right_comm]
  simp only [ofRatio, hunits, hquotient, hshift, roundDiv_mul hk]

/-- **Equal quotients are rounded alike.** -/
theorem ofRatio_congr {a b c d : Nat} (hb : 0 < b) (hd : 0 < d) (h : a * d = c * b) :
    ofRatio negative a b = ofRatio negative c d :=
  calc ofRatio negative a b
      _ = ofRatio negative (a * d) (b * d) := (ofRatio_mul hd a b).symm
      _ = ofRatio negative (c * b) (d * b) := by rw [h, Nat.mul_comm b d]
      _ = ofRatio negative c d := ofRatio_mul hb c d

/-- Zero has one form. -/
theorem Fits.eq_zero {significand shift : Nat} (h : Fits significand shift)
    (hzero : significand <<< shift = 0) : significand = 0 ∧ shift = 0 := by
  have hsignificand : significand = 0 := by
    rw [Nat.shiftLeft_eq] at hzero
    exact (Nat.mul_eq_zero.mp hzero).resolve_right (Nat.ne_of_gt (Nat.two_pow_pos shift))
  have hlead := h.2.2
  rw [hsignificand] at hlead
  exact ⟨hsignificand, hlead.resolve_left (by decide)⟩

/-- The leading bit of a number tells its shift. -/
theorem Fits.log2_sub {significand shift : Nat} (h : Fits significand shift) :
    (significand <<< shift).log2 - 52 = shift := by
  by_cases hzero : significand <<< shift = 0
  · rw [hzero, (h.eq_zero hzero).2]
    rfl
  obtain ⟨hlt, -, hlead⟩ := h
  rw [Nat.shiftLeft_eq, Nat.one_mul] at hlt hlead
  rw [Nat.shiftLeft_eq] at hzero ⊢
  rcases hlead with hlead | rfl
  · have hlog : (significand * 2 ^ shift).log2 = 52 + shift := by
      rw [Nat.log2_eq_iff hzero, Nat.add_right_comm, Nat.pow_add, Nat.pow_add]
      exact ⟨Nat.mul_le_mul_right _ hlead, Nat.mul_lt_mul_of_pos_right hlt (Nat.two_pow_pos shift)⟩
    omega
  · rw [Nat.pow_zero, Nat.mul_one] at hzero ⊢
    have hlog : significand.log2 < 53 := (Nat.log2_lt hzero).mpr hlt
    omega

/-- **A quotient that is equal to a double is rounded to it.** -/
theorem ofRatio_exact {significand shift num den : Nat} (h : Fits significand shift)
    (hd : 0 < den) (heq : num * unitsPerOne = (significand <<< shift) * den) :
    ofRatio negative num den = .finite negative significand shift h := by
  have hquotient : num * unitsPerOne / den = significand <<< shift := by
    rw [heq, Nat.mul_div_cancel _ hd]
  have hscaled : num * unitsPerOne = significand * (den <<< shift) := by
    rw [heq, Nat.shiftLeft_eq, Nat.shiftLeft_eq, Nat.mul_right_comm, Nat.mul_assoc]
  have hpos : 0 < den <<< shift := by
    rw [Nat.shiftLeft_eq]
    exact Nat.mul_pos hd (Nat.two_pow_pos shift)
  simp only [ofRatio, hquotient, h.log2_sub]
  rw [hscaled, roundDiv_exact hpos, ofParts, dif_pos h]

end Double

/-! ## Decimals -/

theorem decimalLength_le_iff {n k : Nat} (hk : 0 < k) : decimalLength n ≤ k ↔ n < 10 ^ k :=
  Nat.length_toDigits_le_iff (by decide) hk

/-- Every factor of ten is one more digit. -/
theorem decimalLength_mul_pow {n : Nat} (hn : 0 < n) (k : Nat) :
    decimalLength (n * 10 ^ k) = decimalLength n + k := by
  induction k with
  | zero => rw [Nat.pow_zero, Nat.mul_one, Nat.add_zero]
  | succ k ih =>
    have hpos : 0 < n * 10 ^ k := Nat.mul_pos hn (Nat.pow_pos (by decide))
    have hdigits : Nat.toDigits 10 (n * 10 ^ (k + 1)) = Nat.toDigits 10 (n * 10 ^ k) ++ ['0'] := by
      have happend := Nat.toDigits_append_toDigits (b := 10) (d := 0) (by decide) hpos (by decide)
      rw [Nat.pow_succ, ← Nat.mul_assoc, Nat.mul_comm _ 10]
      exact happend.symm
    rw [decimalLength, hdigits, List.length_append, ← decimalLength, ih]
    rfl

namespace Double

variable {negative : Bool}

/-- A decimal near the range of doubles is rounded as the quotient that it stands for. -/
theorem ofDecimal_eq_ofRatio {d : Decimal} (hd : d.digits ≠ 0)
    (hlow : -400 ≤ decimalLength d.digits + d.exponent)
    (hhigh : decimalLength d.digits + d.exponent ≤ 400) :
    ofDecimal negative d
      = ofRatio negative (d.digits * 10 ^ d.exponent.toNat) (10 ^ (-d.exponent).toNat) := by
  have hnear : (d.digits == 0 || decide (decimalLength d.digits + d.exponent < -400)) = false := by
    simp [hd, hlow]
  simp only [ofDecimal, hnear, Bool.false_eq_true, if_false, if_neg (Int.not_lt.mpr hhigh)]
  split
  · rename_i hexp
    have hnone : (-d.exponent).toNat = 0 := by omega
    rw [hnone]
    rfl
  · have hnone : d.exponent.toNat = 0 := by omega
    rw [hnone, Nat.pow_zero, Nat.mul_one]
    rfl

theorem ofDecimal_zero (e : Int) : ofDecimal negative ⟨0, e⟩ = zero negative := by
  simp [ofDecimal]

theorem units_zero : (zero negative).units = 0 := by
  rw [zero, ofParts, dif_pos (by decide), units, Nat.zero_shiftLeft]

/-- Zero has no other form. -/
theorem eq_zero {x : Double} (hx : x.isFinite = true) (hunits : x.units = 0) :
    x = zero x.isNegative := by
  cases x with
  | nan | infinite _ => cases hx
  | finite negative significand shift fits =>
    obtain ⟨rfl, rfl⟩ := fits.eq_zero hunits
    rw [zero, ofParts, dif_pos fits]
    rfl

/-- **Zeros at the end of the digits are as good as a greater exponent.** -/
theorem ofDecimal_mul_pow (n k : Nat) (e : Int) :
    ofDecimal negative ⟨n * 10 ^ k, e⟩ = ofDecimal negative ⟨n, e + k⟩ := by
  have hpow (j : Nat) : 0 < 10 ^ j := Nat.pow_pos (by decide)
  by_cases hn : n = 0
  · rw [hn, Nat.zero_mul, ofDecimal_zero, ofDecimal_zero]
  have hnk : n * 10 ^ k ≠ 0 := Nat.mul_ne_zero hn (Nat.ne_of_gt (hpow k))
  have htop : (decimalLength (n * 10 ^ k) : Int) + e = decimalLength n + (e + k) := by
    rw [decimalLength_mul_pow (Nat.pos_of_ne_zero hn) k]
    push_cast
    omega
  by_cases hlow : (decimalLength n : Int) + (e + k) < -400
  · simp [ofDecimal, htop, hlow]
  by_cases hhigh : 400 < (decimalLength n : Int) + (e + k)
  · simp [ofDecimal, htop, hlow, hhigh, beq_eq_false_iff_ne.mpr hn, beq_eq_false_iff_ne.mpr hnk]
  rw [ofDecimal_eq_ofRatio hnk (by rw [htop]; omega) (by rw [htop]; omega),
    ofDecimal_eq_ofRatio hn (by dsimp only; omega) (by dsimp only; omega)]
  refine ofRatio_congr (hpow _) (hpow _) ?_
  have hexp : k + e.toNat + (-(e + k)).toNat = (e + k).toNat + (-e).toNat := by omega
  dsimp only
  rw [Nat.mul_assoc n, Nat.mul_assoc n, Nat.mul_assoc n, ← Nat.pow_add, ← Nat.pow_add,
    ← Nat.pow_add, hexp]

/-! ## The shortest decimal -/

/-- All digits of a number, down to the smallest positive number, read back. -/
theorem ofDecimal_full {significand shift : Nat} (h : Fits significand shift) :
    ofDecimal negative ⟨(significand <<< shift) * Nat.pow 5 1074, -1074⟩
      = .finite negative significand shift h := by
  have hunits : Nat.pow 5 1074 * unitsPerOne = 10 ^ 1074 := by decide +kernel
  have hleast : 10 ^ 673 ≤ Nat.pow 5 1074 := by decide +kernel
  have hgreatest : 2 ^ 2098 * Nat.pow 5 1074 < 10 ^ 1474 := by decide +kernel
  generalize Nat.pow 5 1074 = full at hunits hleast hgreatest ⊢
  have hpower (n : Nat) (hn : 53 + shift ≤ n) : significand <<< shift ≤ 2 ^ n := by
    have hlt : significand < 2 ^ 53 := by
      have hlt := h.1
      rwa [Nat.shiftLeft_eq, Nat.one_mul] at hlt
    calc significand <<< shift
      _ = significand * 2 ^ shift := Nat.shiftLeft_eq ..
      _ ≤ 2 ^ 53 * 2 ^ shift := Nat.mul_le_mul_right _ (Nat.le_of_lt hlt)
      _ = 2 ^ (53 + shift) := (Nat.pow_add ..).symm
      _ ≤ 2 ^ n := Nat.pow_le_pow_right (by decide) hn
  have hsize : significand <<< shift ≤ 2 ^ 2098 := hpower 2098 (Nat.add_le_add_left h.2.1 53)
  by_cases hzero : significand <<< shift = 0
  · obtain ⟨rfl, rfl⟩ := h.eq_zero hzero
    simp [ofDecimal, zero, ofParts, h]
  have hfull : 0 < full := Nat.lt_of_lt_of_le (Nat.pow_pos (by decide)) hleast
  have hdigits : significand <<< shift * full ≠ 0 := Nat.mul_ne_zero hzero (Nat.ne_of_gt hfull)
  have hlow : ¬ decimalLength (significand <<< shift * full) ≤ 673 := by
    rw [decimalLength_le_iff (by decide), Nat.not_lt]
    exact Nat.le_trans hleast (Nat.le_mul_of_pos_left full (Nat.pos_of_ne_zero hzero))
  have hhigh : decimalLength (significand <<< shift * full) ≤ 1474 := by
    rw [decimalLength_le_iff (by decide)]
    exact Nat.lt_of_le_of_lt (Nat.mul_le_mul_right full hsize) hgreatest
  rw [ofDecimal_eq_ofRatio hdigits (by dsimp only; omega) (by dsimp only; omega)]
  refine ofRatio_exact h (Nat.pow_pos (by decide)) ?_
  have hexp : (-(-1074 : Int)).toNat = 1074 := rfl
  have hnone : (-1074 : Int).toNat = 0 := rfl
  dsimp only
  rw [hexp, hnone, Nat.pow_zero, Nat.mul_one, Nat.mul_assoc, hunits]

/-- **The shortest decimal for a finite number rounds to it.** -/
theorem ofDecimal_shortest {x : Double} (hx : x.isFinite = true) :
    ofDecimal x.isNegative x.shortest = x := by
  have hfrom (point : Int) (more count : Nat) :
      ofDecimal x.isNegative (shortestFrom x point count more) = x := by
    induction more generalizing count with
    | zero =>
      cases x with
      | nan | infinite _ => cases hx
      | finite negative significand shift fits =>
        rw [shortestFrom]
        exact ofDecimal_full fits
    | succ more ih =>
      rw [shortestFrom]
      split
      · rename_i d hd
        have hround := List.find?_some hd
        exact of_decide_eq_true hround
      · exact ih (count + 1)
  exact hfrom _ 17 1

theorem shortest_digits_ne_zero {x : Double} (hx : x.isFinite = true) (hunits : x.units ≠ 0) :
    x.shortest.digits ≠ 0 := by
  have hround := ofDecimal_shortest hx
  generalize x.shortest = d at hround
  obtain ⟨digits, e⟩ := d
  rintro rfl
  rw [ofDecimal_zero] at hround
  exact hunits (by rw [← hround, units_zero])

end Double

end CardQuery

import CardQuery.Proofs.Number.Rounding
import Mathlib.Logic.Basic
import Mathlib.Tactic.Ring

/-!
# Proofs/Number/Overflow — which whole numbers have a double near to them

* `Double.isSome_ofInt?_iff` — a whole number has a nearest finite double exactly if its size is
  below `Double.overflow`, which lies half way between the greatest finite double and the power of
  two after it.

A half is rounded to the even neighbour, and the neighbour above is even there, so the number half
way has no room either (`roundDiv_lt_iff`).
-/

namespace CardQuery

/-! ## Rounded quotients -/

section Rounding

variable {num den k m : Nat}

theorem two_pow_eq {a b c : Nat} (h : a = b + c) : 2 ^ a = 2 ^ b * 2 ^ c := by
  rw [h, Nat.pow_add]

theorem log2_mul_two_pow (hm : m ≠ 0) (k : Nat) : (m * 2 ^ k).log2 = m.log2 + k := by
  have hpos : 0 < 2 ^ k := Nat.two_pow_pos k
  rw [Nat.log2_eq_iff (Nat.mul_ne_zero hm (Nat.ne_of_gt hpos)), Nat.add_right_comm, Nat.pow_add,
    Nat.pow_add]
  exact ⟨Nat.mul_le_mul_right _ (Nat.log2_self_le hm),
    Nat.mul_lt_mul_of_pos_right Nat.lt_log2_self hpos⟩

theorem le_roundDiv : num / den ≤ roundDiv num den := by
  rw [roundDiv]
  split
  · omega
  · split <;> omega

theorem roundDiv_le : roundDiv num den ≤ num / den + 1 := by
  rw [roundDiv]
  split
  · omega
  · split <;> omega

/-- A quotient is rounded below an even number exactly if it is nearer to the number before. -/
theorem roundDiv_lt_iff (hd : 0 < den) (hk : k % 2 = 0) :
    roundDiv num den < k ↔ 2 * num < (2 * k - 1) * den := by
  have hsplit : num = num / den * den + num % den := by
    rw [Nat.mul_comm]
    exact (Nat.div_add_mod num den).symm
  have hrest : num % den < den := Nat.mod_lt num hd
  have hle : num / den ≤ roundDiv num den := le_roundDiv
  have hge : roundDiv num den ≤ num / den + 1 := roundDiv_le
  rcases Nat.lt_trichotomy (num / den + 1) k with hlt | rfl | hgt
  · have hbound : (2 * (num / den + 1) + 1) * den ≤ (2 * k - 1) * den :=
      Nat.mul_le_mul_right den (by omega)
    have hexpand : (2 * (num / den + 1) + 1) * den = 2 * (num / den * den) + 3 * den := by ring
    exact ⟨fun _ => by omega, fun _ => by omega⟩
  · -- the quotient lies between an odd number and `k`, so that a half goes to `k`
    have hhalf : (2 * (num / den + 1) - 1) * den = 2 * (num / den * den) + den := by
      have hodd : 2 * (num / den + 1) - 1 = 2 * (num / den) + 1 := by omega
      rw [hodd]
      ring
    rw [hhalf, roundDiv]
    split
    · omega
    · split <;> omega
  · have hbound : (2 * k - 1) * den ≤ 2 * (num / den * den) := by
      have hle : (2 * k - 1) * den ≤ 2 * (num / den) * den := Nat.mul_le_mul_right den (by omega)
      rwa [Nat.mul_assoc] at hle
    exact ⟨fun _ => by omega, fun _ => by omega⟩

end Rounding

/-! ## Whole numbers -/

namespace Double

/-- The least size of a whole number that is too large for a double. -/
def overflow : Nat := 2 ^ 1024 - 2 ^ 970

section Whole

variable {negative : Bool} {significand shift m : Nat}

theorem overflow_eq : overflow = (2 ^ 54 - 1) * 2 ^ 970 := by
  rw [overflow, two_pow_eq (a := 1024) (b := 54) (c := 970) rfl, Nat.sub_mul, Nat.one_mul]

/-- A significand with its leading bit has room below the greatest shift, and with that shift unless
rounding carried it up. -/
theorem isFinite_ofParts_iff (hlo : 2 ^ 52 ≤ significand) (hhi : significand ≤ 2 ^ 53) :
    (ofParts negative significand shift).isFinite = true
      ↔ shift < 2045 ∨ shift = 2045 ∧ significand < 2 ^ 53 := by
  have hbit : (1 : Nat) <<< 52 = 2 ^ 52 := by decide
  have hcarry : (1 : Nat) <<< 53 = 2 ^ 53 := by decide
  by_cases hfits : Fits significand shift
  · rw [ofParts, dif_pos hfits]
    obtain ⟨hlt, hshift, -⟩ := hfits
    rw [hcarry] at hlt
    exact ⟨fun _ => by omega, fun _ => rfl⟩
  · rw [ofParts, dif_neg hfits]
    split
    · rename_i hup
      obtain ⟨rfl, -, hshift, -⟩ := hup
      exact ⟨fun _ => .inl (by omega), fun _ => rfl⟩
    · rename_i hup
      constructor
      · intro h
        cases h
      · intro hroom
        simp only [Fits, hbit, hcarry, not_and_or] at hfits hup
        omega

theorem ofParts_ne_nan : ofParts negative significand shift ≠ .nan := by
  rw [ofParts]
  split
  · simp
  · split <;> simp

/-- A positive whole number is rounded to 53 bits from its leading bit on. -/
theorem ofRatio_one_eq (hm : m ≠ 0) :
    ofRatio negative m 1
      = ofParts negative (roundDiv (m * 2 ^ 52) (2 ^ m.log2)) (m.log2 + 1022) := by
  have hshifted (j k : Nat) : 1 <<< (j + k) = 2 ^ j * 2 ^ k := by
    rw [Nat.shiftLeft_eq, Nat.one_mul, Nat.pow_add]
  have hunits : unitsPerOne = 2 ^ 52 * 2 ^ 1022 := hshifted 52 1022
  have hshift : (m * 2 ^ 52 * 2 ^ 1022).log2 - 52 = m.log2 + 1022 := by
    rw [log2_mul_two_pow (Nat.mul_ne_zero hm (by decide)), log2_mul_two_pow hm]
    omega
  rw [ofRatio, hunits, Nat.div_one, ← Nat.mul_assoc, hshift, hshifted,
    roundDiv_mul (Nat.two_pow_pos 1022)]

/-- The significand of a positive whole number has its leading bit. -/
theorem significand_bounds (hm : m ≠ 0) :
    2 ^ 52 ≤ m * 2 ^ 52 / 2 ^ m.log2 ∧ m * 2 ^ 52 / 2 ^ m.log2 < 2 ^ 53 := by
  have hden : 0 < 2 ^ m.log2 := Nat.two_pow_pos _
  have hlo : 2 ^ m.log2 ≤ m := Nat.log2_self_le hm
  have hhi : m < 2 ^ m.log2 * 2 := Nat.lt_log2_self
  rw [Nat.le_div_iff_mul_le hden, Nat.div_lt_iff_lt_mul hden]
  omega

theorem isFinite_ofRatio_zero : (ofRatio negative 0 1).isFinite = true := by
  have hzero : ofRatio negative 0 1 = zero negative := by simp [ofRatio, zero, roundDiv]
  rw [hzero, zero, ofParts, dif_pos (by decide)]
  rfl

/-- **Which whole numbers are rounded to a finite number.** -/
theorem isFinite_ofRatio_one_iff : (ofRatio negative m 1).isFinite = true ↔ m < overflow := by
  have hpos (k : Nat) : 0 < 2 ^ k := Nat.two_pow_pos k
  have hnext {a b : Nat} (h : a < b) : 2 ^ a * 2 ≤ 2 ^ b := by
    rw [← Nat.pow_succ]
    exact Nat.pow_le_pow_right (by decide) h
  have hlast : 2 ^ 1023 = 2 ^ 53 * 2 ^ 970 := two_pow_eq rfl
  have hhalf := hpos 970
  rw [overflow_eq]
  generalize 2 ^ 970 = half at hhalf hlast ⊢
  by_cases hm : m = 0
  · rw [hm]
    exact ⟨fun _ => by omega, fun _ => isFinite_ofRatio_zero⟩
  have hlo : 2 ^ m.log2 ≤ m := Nat.log2_self_le hm
  have hhi : m < 2 ^ m.log2 * 2 := Nat.lt_log2_self
  obtain ⟨hleast, hmost⟩ := significand_bounds hm
  rw [ofRatio_one_eq hm, isFinite_ofParts_iff (Nat.le_trans hleast le_roundDiv)
    (Nat.le_trans roundDiv_le hmost), roundDiv_lt_iff (hpos _) (by decide)]
  rcases Nat.lt_trichotomy m.log2 1023 with hsmall | hlog | hlarge
  · have hbelow : 2 ^ m.log2 * 2 ≤ 2 ^ 1023 := hnext hsmall
    exact ⟨fun _ => by omega, fun _ => .inl (by omega)⟩
  · -- with the last shift the significand decides
    rw [hlog, hlast]
    omega
  · have habove : 2 ^ 1023 * 2 ≤ 2 ^ m.log2 := hnext hlarge
    exact ⟨fun h => by omega, fun h => by omega⟩

theorem isSome_unlessInfinite {x : Double} (h : x ≠ .nan) :
    x.unlessInfinite.isSome = x.isFinite := by
  cases x with
  | nan => exact absurd rfl h
  | infinite negative => rfl
  | finite negative significand shift fits => rfl

/-- **Which whole numbers have a double near to them.** -/
theorem isSome_ofInt?_iff {n : Int} : (ofInt? n).isSome = true ↔ n.natAbs < overflow := by
  have hnan : ofInt n ≠ .nan := by
    rw [ofInt, ofRatio]
    exact ofParts_ne_nan
  rw [ofInt?, isSome_unlessInfinite hnan, ofInt]
  exact isFinite_ofRatio_one_iff

end Whole

end Double

end CardQuery

import CardQuery.Card.Stat
import CardQuery.Proofs.Number.Numeral
import CardQuery.Proofs.Number.Overflow
import CardQuery.Proofs.Outcome
import CardQuery.Proofs.Typing.Card

/-!
# Proofs/Typing/Stat — the numbers that values give

* `floatOf_endsIn_of_isScalar`, `statOf_endsIn_of_isScalar` — a value without parts gives a number
  or none, unless it is a whole number that no finite double is near to.
* `statOf_string` — the number of a stat that is a text: zero if the text has a star, none if it has
  neither a star nor a digit, and else the number that its first numeral writes.
-/

namespace CardQuery

open Json

namespace Json

/-- A value without parts: null, a truth value, a number or a text. -/
def IsScalar : Json → Prop
  | .array _ | .object _ => False
  | _ => True

/-- A whole number that no finite double is near to. -/
def IsHuge : Json → Prop
  | .int n => Double.overflow ≤ n.natAbs
  | _ => False

end Json

/-! ## Whole numbers -/

theorem doubleOf_of_huge {n : Int} (h : IsHuge (.int n)) : doubleOf n = .error .tooLarge := by
  have hiff := Double.isSome_ofInt?_iff (n := n)
  rw [doubleOf]
  generalize Double.ofInt? n = x at hiff
  cases x with
  | none => rfl
  | some x => exact absurd (hiff.mp rfl) (Nat.not_lt.mpr h)

theorem doubleOf_endsIn (n : Int) : EndsIn (doubleOf n) (IsHuge (.int n)) fun _ => True := by
  refine ⟨fun h => ⟨_, doubleOf_of_huge h⟩, fun h => ?_⟩
  have hiff := Double.isSome_ofInt?_iff (n := n)
  obtain ⟨x, hx⟩ := Option.isSome_iff_exists.mp (hiff.mpr (Nat.lt_of_not_le h))
  rw [doubleOf, hx]
  exact ⟨x, rfl, trivial⟩

/-- **A value without parts is a number or gives none**, unless it is huge. -/
theorem floatOf_endsIn_of_isScalar {j : Json} (h : j.IsScalar) :
    EndsIn (floatOf j) j.IsHuge fun _ => True := by
  cases j with
  | int n =>
    rw [floatOf]
    exact (doubleOf_endsIn n).map fun _ _ => trivial
  | null => exact endsIn_ok trivial
  | bool b => exact endsIn_ok trivial
  | double x => exact endsIn_ok trivial
  | string s => exact endsIn_ok trivial
  | array items => exact h.elim
  | object members => exact h.elim

theorem floatOf_of_huge {j : Json} (h : j.IsHuge) : floatOf j = .error .tooLarge := by
  cases j with
  | int n =>
    rw [floatOf, doubleOf_of_huge h]
    rfl
  | _ => exact h.elim

theorem statOf_of_huge {j : Json} (h : j.IsHuge) : statOf j = .error .tooLarge := by
  cases j with
  | int n =>
    rw [statOf, doubleOf_of_huge h]
    rfl
  | _ => exact h.elim

/-! ## Texts -/

section Texts

variable {s : String}

/-- The numeral that is found in a text is always read. -/
theorem firstNumber_endsIn (s : String) :
    EndsIn (firstNumber s) False fun x => x = none ↔ ∀ c ∈ s.toList, Text.isDigit c = false := by
  rw [firstNumber]
  split
  · rename_i numeral hfirst
    obtain ⟨x, hx⟩ := readDouble?_firstPlainNumeral? hfirst
    rw [numberOfNumeral, hx, ← firstPlainNumeral?_eq_none_iff, hfirst]
    exact endsIn_ok ⟨nofun, nofun⟩
  · rename_i hnone
    exact endsIn_ok ⟨fun _ => firstPlainNumeral?_eq_none_iff.mp hnone, fun _ => rfl⟩

/-- The number of a stat that is a text. -/
theorem statOf_string (s : String) :
    statOf (.string s) = if '*' ∈ s.toList then .ok (some (.zero false)) else firstNumber s := by
  rw [statOf, hasStar, ok_bind, List.contains_eq_mem]
  by_cases hstar : '*' ∈ s.toList
  · rw [if_pos hstar, decide_eq_true hstar]
    rfl
  · rw [if_neg hstar, decide_eq_false hstar]
    rfl

end Texts

/-- **A value without parts gives a stat its number or none**, unless it is huge. -/
theorem statOf_endsIn_of_isScalar {j : Json} (h : j.IsScalar) :
    EndsIn (statOf j) j.IsHuge fun _ => True := by
  cases j with
  | int n =>
    rw [statOf]
    exact (doubleOf_endsIn n).map fun _ _ => trivial
  | null => exact endsIn_ok trivial
  | bool b => exact endsIn_ok trivial
  | double x => exact endsIn_ok trivial
  | string s =>
    rw [statOf_string]
    split
    · exact endsIn_ok trivial
    · exact (firstNumber_endsIn s).imp fun _ _ => trivial
  | array items => exact h.elim
  | object members => exact h.elim

end CardQuery

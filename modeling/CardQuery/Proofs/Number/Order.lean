import CardQuery.Json.Basic
import Mathlib.Data.Int.Order.Basic

/-!
# Proofs/Number/Order — equal numbers are ordered alike

* `Json.Quantity.order?_eq` — two numbers compare as the places do where they lie.
* `Json.Quantity.order?_congr` — so numbers that are equal compare alike with every other number,
  whether they are whole numbers or doubles.
-/

namespace CardQuery

/-- Where a number lies: before the finite numbers, among them or behind them, and among them, how
many of the smallest positive number it is.  A NaN lies nowhere. -/
def Double.place? : Double → Option (Int × Int)
  | .nan => none
  | .infinite negative => some (if negative then -1 else 1, 0)
  | x@(.finite ..) => some (0, x.signedUnits)

/-- How two places are ordered. -/
def orderPlaces (p q : Int × Int) : Ordering := (compare p.1 q.1).then (compare p.2 q.2)

theorem orderPlaces_eq_iff {p q : Int × Int} : orderPlaces p q = .eq ↔ p = q := by
  rw [orderPlaces, Ordering.then_eq_eq, compare_eq_iff_eq, compare_eq_iff_eq, Prod.ext_iff]

namespace Json.Quantity

/-- The place of a number. -/
def place? : Quantity → Option (Int × Int)
  | .whole n => some (0, n * Double.unitsPerOne)
  | .double x => x.place?

theorem compare_mul_right (m n : Int) {k : Int} (hk : 0 < k) :
    compare (m * k) (n * k) = compare m n := by
  rcases lt_trichotomy m n with h | rfl | h
  · rw [compare_lt_iff_lt.mpr h, compare_lt_iff_lt]
    exact Int.mul_lt_mul_of_pos_right h hk
  · rw [compare_eq_iff_eq.mpr rfl, compare_eq_iff_eq.mpr rfl]
  · rw [compare_gt_iff_gt.mpr h, compare_gt_iff_gt]
    exact Int.mul_lt_mul_of_pos_right h hk

theorem unitsPerOne_pos : (0 : Int) < Double.unitsPerOne := by
  have hpos (k : Nat) : 0 < 1 <<< k := by
    rw [Nat.shiftLeft_eq, Nat.one_mul]
    exact Nat.two_pow_pos k
  exact Int.natCast_pos.mpr (hpos 1074)

theorem orderWhole?_eq (n : Int) (x : Double) :
    orderWhole? n x = x.place?.map (orderPlaces (0, n * Double.unitsPerOne)) := by
  cases x with
  | nan => rfl
  | infinite negative => cases negative <;> rfl
  | finite negative significand shift fits => rfl

theorem orderPlaces_swap (p q : Int × Int) : (orderPlaces p q).swap = orderPlaces q p := by
  rw [orderPlaces, orderPlaces, Ordering.swap_then, Int.compare_swap, Int.compare_swap]

/-- **Two numbers compare as their places do.** -/
theorem order?_eq (m n : Quantity) :
    m.order? n = m.place?.bind fun p => n.place?.map (orderPlaces p) := by
  cases m with
  | whole m =>
    cases n with
    | whole n =>
      rw [order?]
      change some (compare m n) = some (compare (m * _) (n * _))
      rw [compare_mul_right m n unitsPerOne_pos]
    | double y => exact orderWhole?_eq m y
  | double x =>
    cases n with
    | whole n =>
      rw [order?, orderWhole?_eq, Option.map_map]
      cases x with
      | nan => rfl
      | infinite | finite => exact congrArg some (orderPlaces_swap _ _)
    | double y =>
      cases x with
      | nan => rfl
      | infinite a =>
        cases y with
        | nan => rfl
        | infinite b => cases a <;> cases b <;> rfl
        | finite => cases a <;> rfl
      | finite =>
        cases y with
        | nan => rfl
        | infinite b => cases b <;> rfl
        | finite => rfl

/-- Numbers that are equal lie at one place. -/
theorem place?_eq_of_order? {m n : Quantity} (h : m.order? n = some .eq) :
    m.place? = n.place? := by
  rw [order?_eq, Option.bind_eq_some_iff] at h
  obtain ⟨p, hp, h⟩ := h
  obtain ⟨q, hq, h⟩ := Option.map_eq_some_iff.mp h
  rw [hp, hq, orderPlaces_eq_iff.mp h]

/-- **Numbers that are equal compare alike** with every other number, on either side. -/
theorem order?_congr {m n : Quantity} (h : m.order? n = some .eq) (k : Quantity) :
    m.order? k = n.order? k ∧ k.order? m = k.order? n := by
  have hplace := place?_eq_of_order? h
  rw [order?_eq m, order?_eq n, order?_eq k m, order?_eq k n, hplace]
  exact ⟨rfl, rfl⟩

end Json.Quantity

end CardQuery

import CardQuery.Proofs.Number.Order
import CardQuery.Proofs.Sameness.Canonical
import CardQuery.Query.Hash

/-!
# Proofs/Sameness/Hash — queries that are the same have one hash

* `hashWhole_mul` — the hash of a number depends on its remainder, so the number of units in a
  number is as good as the number.
* `Json.Quantity.hashBy_eq` — numbers of one value have one hash, written as whole numbers or not.
* `Query.hashBy_congr` — so have queries that are the same, and proper queries have a hash.
-/

namespace CardQuery

variable {h : Hasher}

theorem exists_map_eq_ok_iff {ε α β : Type} {x : Except ε α} {f : α → β} :
    (∃ b, f <$> x = .ok b) ↔ ∃ a, x = .ok a := by
  cases x with
  | error e => exact ⟨nofun, nofun⟩
  | ok a => exact ⟨fun _ => ⟨a, rfl⟩, fun _ => ⟨f a, rfl⟩⟩

/-! ## Numbers -/

/-- **A factor that leaves the remainder one does not change the hash.** -/
theorem hashWhole_mul {k : Nat} (hk : k % hashModulus = 1) (n : Int) :
    hashWhole (n * k) = hashWhole n := by
  have hpos : 0 < k := by
    rcases Nat.eq_zero_or_pos k with rfl | hpos
    · cases hk
    · exact hpos
  have hsize : (n * k).natAbs % hashModulus = n.natAbs % hashModulus := by
    rw [Int.natAbs_mul, Int.natAbs_natCast, Nat.mul_mod, hk, Nat.mul_one, Nat.mod_mod]
  have hsign : n * k < 0 ↔ n < 0 := by
    have hscale : n * k < 0 * k ↔ n < 0 := Int.mul_lt_mul_right (Int.natCast_pos.mpr hpos)
    rwa [Int.zero_mul] at hscale
  simp only [hashWhole, hsize, hsign]

namespace Json

namespace Quantity

/-- The hash of a number. -/
def hashBy (h : Hasher) : Quantity → Int
  | whole n => hashWhole n
  | double x => x.hashBy h

/-- The hash of what lies at a place. -/
def hashAt (place : Int × Int) : Int :=
  if place.1 = 0 then hashWhole (place.2 * (1 <<< 24 : Nat)) else place.1 * 314159

theorem hashBy_of_place? {m : Quantity} {place : Int × Int} (hm : m.place? = some place) :
    m.hashBy h = hashAt place := by
  cases m with
  | whole n =>
    obtain rfl : (0, n * (Double.unitsPerOne : Int)) = place := Option.some.inj hm
    -- A power of two is one modulo `2 ^ 61 - 1` at the multiples of 61, as `1074 + 24` is.
    have hone : (Double.unitsPerOne * 1 <<< 24) % hashModulus = 1 := by decide +kernel
    rw [hashAt, if_pos rfl, Int.mul_assoc, ← Int.natCast_mul, hashWhole_mul hone]
    rfl
  | double x =>
    cases x with
    | nan => cases hm
    | infinite negative =>
      cases negative <;> cases hm <;> rfl
    | finite =>
      obtain rfl := Option.some.inj hm
      rfl

/-- **Numbers of one value have one hash.** -/
theorem hashBy_eq {m n : Quantity} (hmn : m.order? n = some .eq) : m.hashBy h = n.hashBy h := by
  have hplace := place?_eq_of_order? hmn
  cases hm : m.place? with
  | none =>
    rw [order?_eq, hm] at hmn
    cases hmn
  | some place => rw [hashBy_of_place? hm, hashBy_of_place? (hplace.symm.trans hm)]

end Quantity

variable {a b : Json}

theorem hashBy_of_quantity? {m : Quantity} (ha : a.quantity? = some m) :
    a.hashBy h = .ok (m.hashBy h) := by
  cases a with
  | bool | int | double =>
    cases ha
    rfl
  | _ => cases ha

/-- A number is only the same as a number, of its value. -/
theorem exists_quantity? {m : Quantity} (ha : a.quantity? = some m) (hab : a.same b = true) :
    ∃ n, b.quantity? = some n ∧ m.order? n = some .eq := by
  cases a with
  | bool | int | double =>
    cases ha
    cases b with
    | bool | int | double => exact ⟨_, rfl, eq_of_beq hab⟩
    | _ => cases hab
  | _ => cases ha

/-- **Values that are the same have one hash**, or none. -/
theorem hashBy_congr (hab : a.same b = true) : a.hashBy h = b.hashBy h := by
  cases ha : a.quantity? with
  | some m =>
    obtain ⟨n, hb, hmn⟩ := exists_quantity? ha hab
    rw [hashBy_of_quantity? ha, hashBy_of_quantity? hb, Quantity.hashBy_eq hmn]
  | none =>
    cases a with
    | bool | int | double => cases ha
    | null =>
      cases b with
      | null => rfl
      | _ => cases hab
    | string s =>
      cases b with
      | string t =>
        obtain rfl : s = t := eq_of_beq hab
        rfl
      | _ => cases hab
    | array | object =>
      cases b with
      | array | object => rfl
      | _ => cases hab

/-- A value has a hash exactly if it can be a member of a set. -/
theorem exists_hashBy_iff : (∃ n, a.hashBy h = .ok n) ↔ a.isKey = true := by
  cases a with
  | array | object => exact ⟨nofun, nofun⟩
  | _ => exact ⟨fun _ => rfl, fun _ => ⟨_, rfl⟩⟩

end Json

/-! ## Values and queries -/

namespace Value

variable {v w : Value}

theorem heldHashes_congr (hvw : v.same w = true) : v.heldHashes h = w.heldHashes h := by
  cases v with
  | text a =>
    cases w with
    | text b => rw [heldHashes, heldHashes, Json.hashBy_congr (a := a) (b := b) hvw]
    | _ => cases hvw
  | number x =>
    cases w with
    | number y =>
      have heq : (Json.Quantity.double x).order? (.double y) = some .eq := eq_of_beq hvw
      rw [heldHashes, heldHashes]
      exact congrArg (fun n => Except.ok [n]) (Json.Quantity.hashBy_eq heq)
    | _ => cases hvw
  | keyword a =>
    cases w with
    | keyword b => rw [eq_of_beq (a := a) (b := b) hvw]
    | _ => cases hvw
  | colors a =>
    cases w with
    | colors b => rw [eq_of_beq (a := a) (b := b) hvw]
    | _ => cases hvw
  | pattern p =>
    cases w with
    | pattern q => rw [eq_of_beq (a := p) (b := q) hvw]
    | _ => cases hvw

/-- Values that are the same are of one kind. -/
theorem kindName_congr (hvw : v.same w = true) : v.kindName = w.kindName := by
  cases v <;> cases w <;> first | rfl | cases hvw

/-- **Values that are the same have one hash**, or none. -/
theorem hashBy_congr (hvw : v.same w = true) : v.hashBy h = w.hashBy h := by
  rw [hashBy, hashBy, heldHashes_congr hvw, kindName_congr hvw]

theorem exists_hashBy_iff : (∃ n, v.hashBy h = .ok n) ↔ v.isKey = true := by
  cases v with
  | text content =>
    rw [isKey, ← Json.exists_hashBy_iff (h := h)]
    simp [hashBy, heldHashes, exists_map_eq_ok_iff]
  | _ => exact ⟨fun _ => rfl, fun _ => ⟨_, rfl⟩⟩

end Value

namespace Query

variable {a b : Query}

/-- **Queries that are the same have one hash**, or none. -/
theorem hashBy_congr (hab : a.same b = true) : a.hashBy h = b.hashBy h := by
  induction a generalizing b with
  | compare f op v =>
    cases b with
    | compare g op' w =>
      rw [same, Bool.and_eq_true, Bool.and_eq_true, beq_iff_eq, beq_iff_eq] at hab
      obtain ⟨⟨rfl, rfl⟩, hvw⟩ := hab
      rw [hashBy, hashBy, Value.hashBy_congr hvw]
      rfl
    | _ => cases hab
  | term s =>
    cases b with
    | term t =>
      rw [hashBy, hashBy, Json.hashBy_congr (a := s) (b := t) hab]
      rfl
    | _ => cases hab
  | pattern p =>
    cases b with
    | pattern q => rw [eq_of_beq (a := p) (b := q) hab]
    | _ => cases hab
  | and l r ihl ihr =>
    cases b with
    | and l' r' =>
      rw [same, Bool.and_eq_true] at hab
      rw [hashBy, hashBy, ihl hab.1, ihr hab.2]
      rfl
    | _ => cases hab
  | or l r ihl ihr =>
    cases b with
    | or l' r' =>
      rw [same, Bool.and_eq_true] at hab
      rw [hashBy, hashBy, ihl hab.1, ihr hab.2]
      rfl
    | _ => cases hab
  | not q ih =>
    cases b with
    | not q' =>
      rw [hashBy, hashBy, ih (b := q') hab]
      rfl
    | _ => cases hab

/-- A query has a hash exactly if it can be a member of a set. -/
theorem exists_hashBy_iff : (∃ n, a.hashBy h = .ok n) ↔ a.isKey = true := by
  induction a with
  | compare f op v =>
    rw [isKey, ← Value.exists_hashBy_iff (h := h)]
    simp [hashBy, exists_map_eq_ok_iff]
  | term s =>
    rw [isKey, ← Json.exists_hashBy_iff (h := h)]
    simp [hashBy, exists_map_eq_ok_iff]
  | pattern p => exact ⟨fun _ => rfl, fun _ => ⟨_, rfl⟩⟩
  | and l r ihl ihr | or l r ihl ihr =>
    rw [isKey, Bool.and_eq_true, ← ihl, ← ihr]
    simp only [hashBy, bind_eq_ok_iff, bind_pure_comp]
    rw [exists_comm]
    simp [exists_map_eq_ok_iff]
  | not q ih =>
    rw [isKey, ← ih]
    simp [hashBy, exists_map_eq_ok_iff]

/-- A proper query can be a member of a set. -/
theorem IsProper.isKey (ha : a.IsProper) : a.isKey = true := by
  induction a with
  | compare f op v =>
    cases v with
    | text content =>
      obtain ⟨s, rfl⟩ := ha
      rfl
    | _ => rfl
  | term content =>
    obtain ⟨s, rfl⟩ := ha
    rfl
  | pattern p => rfl
  | and l r ihl ihr | or l r ihl ihr => rw [Query.isKey, ihl ha.1, ihr ha.2, Bool.true_and]
  | not q ih => exact ih ha

end Query

end CardQuery

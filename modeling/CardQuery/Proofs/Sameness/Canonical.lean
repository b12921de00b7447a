import CardQuery.Proofs.Number.Order
import CardQuery.Proofs.Number.Rounding
import CardQuery.Proofs.Typing.Card

/-!
# Proofs/Sameness/Canonical — queries are the same if one form is

Queries are compared part by part, and numbers in them by value: the two zeros are equal.  Apart
from that sign the same queries are one query.  The canonical form drops it.

* `Double.canonical_eq_iff` — two numbers have one canonical form exactly if they lie at one place.
* `Query.same_iff` — two proper queries are the same exactly if their canonical forms are one.
-/

namespace CardQuery

/-! ## Numbers -/

namespace Double

/-- **A number, and a zero without its sign.** -/
def canonical (x : Double) : Double := if x.isFinite && x.units == 0 then zero false else x

variable {x y : Double}

theorem natAbs_signedUnits (x : Double) : x.signedUnits.natAbs = x.units := by
  rw [signedUnits]
  split <;> simp

/-- A finite number is told by its sign and its size. -/
theorem ofRatio_units (hx : x.isFinite = true) :
    ofRatio x.isNegative x.units unitsPerOne = x := by
  cases x with
  | nan | infinite => cases hx
  | finite negative significand shift fits =>
    exact ofRatio_exact fits (Int.natCast_pos.mp Json.Quantity.unitsPerOne_pos) rfl

/-- Finite numbers but zero are told by their size with its sign. -/
theorem eq_of_signedUnits (hx : x.isFinite = true) (hy : y.isFinite = true) (hne : x.units ≠ 0)
    (h : x.signedUnits = y.signedUnits) : x = y := by
  have hunits : x.units = y.units := by
    rw [← natAbs_signedUnits x, ← natAbs_signedUnits y, h]
  have hsign : x.isNegative = y.isNegative := by
    rw [signedUnits, signedUnits, ← hunits] at h
    cases hxs : x.isNegative <;> cases hys : y.isNegative <;> simp [hxs, hys] at h ⊢ <;> omega
  rw [← ofRatio_units hx, ← ofRatio_units hy, hsign, hunits]

theorem canonical_of_units (hx : x.isFinite = true) (h : x.units = 0) :
    x.canonical = zero false := by
  simp [canonical, hx, h]

/-- Only a zero differs from its canonical form. -/
theorem canonical_cases (x : Double) :
    (x.isFinite = true ∧ x.units = 0) ∧ x.canonical = zero false ∨ x.canonical = x := by
  rw [canonical]
  split
  · rename_i hzero
    exact .inl ⟨by simpa using hzero, rfl⟩
  · exact .inr rfl

theorem place?_of_isFinite (hx : x.isFinite = true) : x.place? = some (0, x.signedUnits) := by
  cases x with
  | nan | infinite => cases hx
  | finite => rfl

theorem signedUnits_eq_zero (h : x.units = 0) : x.signedUnits = 0 :=
  Int.natAbs_eq_zero.mp (x.natAbs_signedUnits.trans h)

theorem place?_canonical (x : Double) : x.canonical.place? = x.place? := by
  rcases x.canonical_cases with ⟨⟨hfinite, hunits⟩, hzero⟩ | hself
  · rw [hzero, place?_of_isFinite hfinite, signedUnits_eq_zero hunits]
    rfl
  · rw [hself]

theorem isFinite_of_place? {n : Int} (h : x.place? = some (0, n)) :
    x.isFinite = true ∧ x.signedUnits = n := by
  cases x with
  | nan => cases h
  | infinite negative => cases negative <;> simp [place?] at h
  | finite => exact ⟨rfl, (Prod.mk.inj (Option.some.inj h)).2⟩

theorem eq_of_place? (hx : x.isFinite = false) (hy : y.isFinite = false)
    (h : x.place? = y.place?) : x = y := by
  cases x with
  | nan =>
    cases y with
    | nan => rfl
    | infinite => cases h
    | finite => cases hy
  | infinite a =>
    cases y with
    | nan => cases h
    | infinite b => cases a <;> cases b <;> simp [place?] at h ⊢
    | finite => cases hy
  | finite => cases hx

/-- **Two numbers have one canonical form exactly if they lie at one place.** -/
theorem canonical_eq_iff : x.canonical = y.canonical ↔ x.place? = y.place? := by
  constructor
  · intro h
    rw [← place?_canonical x, ← place?_canonical y, h]
  intro h
  cases hx : x.isFinite with
  | true =>
    obtain ⟨hy, hsigned⟩ := isFinite_of_place? (h ▸ place?_of_isFinite hx)
    by_cases hzero : x.units = 0
    · have hzero' : y.units = 0 := by
        rw [← natAbs_signedUnits, hsigned, natAbs_signedUnits, hzero]
      rw [canonical_of_units hx hzero, canonical_of_units hy hzero']
    · rw [eq_of_signedUnits hx hy hzero hsigned.symm]
  | false =>
    cases hy : y.isFinite with
    | true =>
      rw [(isFinite_of_place? (h.trans (place?_of_isFinite hy))).1] at hx
      cases hx
    | false => rw [eq_of_place? hx hy h]

theorem eq_nan_of_place? (h : x.place? = none) : x = .nan := by
  cases x with
  | nan => rfl
  | infinite | finite => cases h

/-- **Two numbers are equal exactly if they have one canonical form**, unless one is a NaN. -/
theorem same_iff (hx : x ≠ .nan) : x.same y = true ↔ x.canonical = y.canonical := by
  have horder : x.order? y = x.place?.bind fun p => y.place?.map (orderPlaces p) :=
    Json.Quantity.order?_eq (.double x) (.double y)
  rw [canonical_eq_iff, same, beq_iff_eq, horder]
  cases hp : x.place? with
  | none => exact absurd (eq_nan_of_place? hp) hx
  | some p =>
    rw [Option.bind_some, Option.map_eq_some_iff]
    constructor
    · rintro ⟨q, hq, heq⟩
      rw [hq, orderPlaces_eq_iff.mp heq]
    · intro h
      exact ⟨p, h.symm, orderPlaces_eq_iff.mpr rfl⟩

end Double

/-! ## Values and queries -/

namespace Value

/-- A value in canonical form. -/
def canonical : Value → Value
  | number x => .number x.canonical
  | v => v

/-- **A value that is equal to itself**: what is meant for a text is one, and a number is no NaN. -/
def IsProper : Value → Prop
  | text content => content.IsText
  | number x => x ≠ .nan
  | _ => True

/-- **Two proper values are the same exactly if they have one canonical form.** -/
theorem same_iff {v w : Value} (hv : v.IsProper) (hw : w.IsProper) :
    v.same w = true ↔ v.canonical = w.canonical := by
  cases v with
  | text a =>
    cases w with
    | text b =>
      obtain ⟨s, rfl⟩ := hv
      obtain ⟨t, rfl⟩ := hw
      change (s == t) = true ↔ _
      simp [canonical]
    | _ => exact ⟨nofun, nofun⟩
  | number x =>
    cases w with
    | number y =>
      rw [canonical, canonical, number.injEq]
      exact x.same_iff hv
    | _ => exact ⟨nofun, nofun⟩
  | keyword a =>
    cases w with
    | keyword b =>
      change (a == b) = true ↔ _
      simp [canonical]
    | _ => exact ⟨nofun, nofun⟩
  | colors a =>
    cases w with
    | colors b =>
      change (a == b) = true ↔ _
      simp [canonical]
    | _ => exact ⟨nofun, nofun⟩
  | pattern p =>
    cases w with
    | pattern q =>
      change (p == q) = true ↔ _
      simp [canonical]
    | _ => exact ⟨nofun, nofun⟩

end Value

namespace Query

/-- A query with its numbers in canonical form. -/
def canonical : Query → Query
  | compare field op value => .compare field op value.canonical
  | and left right => .and left.canonical right.canonical
  | or left right => .or left.canonical right.canonical
  | not operand => .not operand.canonical
  | q => q

/-- **A query of proper values**: its texts are texts, and none of its numbers is a NaN. -/
def IsProper : Query → Prop
  | compare _ _ value => value.IsProper
  | term content => content.IsText
  | pattern _ => True
  | and left right | or left right => left.IsProper ∧ right.IsProper
  | not operand => operand.IsProper

/-- **Two proper queries are the same exactly if they have one canonical form.** -/
theorem same_iff {a b : Query} (ha : a.IsProper) (hb : b.IsProper) :
    a.same b = true ↔ a.canonical = b.canonical := by
  induction a generalizing b with
  | compare f op v =>
    cases b with
    | compare g op' w =>
      rw [same, canonical, canonical, compare.injEq, Bool.and_eq_true, Bool.and_eq_true,
        beq_iff_eq, beq_iff_eq, Value.same_iff ha hb, and_assoc]
    | _ => exact ⟨nofun, nofun⟩
  | term s =>
    cases b with
    | term t =>
      obtain ⟨s, rfl⟩ := ha
      obtain ⟨t, rfl⟩ := hb
      change (s == t) = true ↔ _
      simp [canonical]
    | _ => exact ⟨nofun, nofun⟩
  | pattern p =>
    cases b with
    | pattern q =>
      change (p == q) = true ↔ _
      simp [canonical]
    | _ => exact ⟨nofun, nofun⟩
  | and l r ihl ihr =>
    cases b with
    | and l' r' =>
      rw [same, canonical, canonical, and.injEq, Bool.and_eq_true, ihl ha.1 hb.1, ihr ha.2 hb.2]
    | _ => exact ⟨nofun, nofun⟩
  | or l r ihl ihr =>
    cases b with
    | or l' r' =>
      rw [same, canonical, canonical, or.injEq, Bool.and_eq_true, ihl ha.1 hb.1, ihr ha.2 hb.2]
    | _ => exact ⟨nofun, nofun⟩
  | not q ih =>
    cases b with
    | not q' =>
      rw [same, canonical, canonical, not.injEq]
      exact ih ha hb
    | _ => exact ⟨nofun, nofun⟩

end Query

end CardQuery

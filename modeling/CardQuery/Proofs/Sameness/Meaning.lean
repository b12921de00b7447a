import CardQuery.Match
import CardQuery.Proofs.Sameness.Hash
import CardQuery.Query.Explanation

/-!
# Proofs/Sameness/Meaning — queries that are the same mean the same

* `Query.explain_canonical` — a query and its canonical form read alike.
* `Query.outcome_matches_canonical` — and a card matches both or neither, or both fail alike.
* `ProperQuery.same_sound` — so sameness of proper queries is an equivalence that hashes,
  explanations and matching respect.

A zero can be told by its sign only where a rarity is compared with it: the fault that there is no
such rarity shows the number.  An `outcome` leaves out what a missing key is shown by.
-/

namespace CardQuery

/-! ## Outcomes -/

/-- A fault, and a missing key without what it is shown by. -/
def Fault.unshown : Fault → Fault
  | missingKey _ => missingKey ""
  | e => e

/-- **What a computation comes to**, however a missing key is shown. -/
def outcome {α : Type} (x : Except Fault α) : Except Fault α := x.mapError Fault.unshown

section Outcome

variable {α β : Type} {x y : Except Fault α} {f g : α → Except Fault β}

theorem outcome_bind (x : Except Fault α) (f : α → Except Fault β) :
    outcome (x >>= f) = outcome x >>= fun a => outcome (f a) := by
  cases x <;> rfl

theorem outcome_bind_congr (hx : outcome x = outcome y) (hf : ∀ a, outcome (f a) = outcome (g a)) :
    outcome (x >>= f) = outcome (y >>= g) := by
  rw [outcome_bind, outcome_bind, hx, funext hf]

end Outcome

/-! ## Numbers at one place -/

section OnePlace

variable {x y : Double}

theorem Json.order?_of_place? (h : x.place? = y.place?) (a : Json) :
    a.order? (.double x) = a.order? (.double y) := by
  have horder (m : Quantity) : m.order? (.double x) = m.order? (.double y) := by
    rw [Quantity.order?_eq, Quantity.order?_eq]
    exact congrArg (fun p => m.place?.bind fun q => p.map (orderPlaces q)) h
  cases a with
  | bool | int | double => exact congrArg some (horder _)
  | _ => rfl

theorem Json.same_of_place? (h : x.place? = y.place?) (a : Json) :
    a.same (.double x) = a.same (.double y) := by
  have horder := Json.order?_of_place? h a
  cases a with
  | bool | int | double => exact congrArg (· == some .eq) (Option.some.inj horder)
  | _ => rfl

/-- Every comparison with numbers at one place holds for both or for neither. -/
theorem CompareOp.holds_of_place? (h : x.place? = y.place?) (op : CompareOp) (a : Json) :
    op.holds a (some (.double x)) = op.holds a (some (.double y)) := by
  cases op with
  | colon | eq | ne => simp only [CompareOp.holds, Option.any_some, Json.same_of_place? h]
  | _ => simp only [CompareOp.holds, Option.bind_some, Json.order?_of_place? h]

/-- A text is never compared with a number, whatever the number. -/
theorem matchText_number (op : CompareOp) :
    matchText op (.number x) = matchText op (.number y) := by
  funext content
  cases content <;> rfl

theorem matchDiscrete_number (op : CompareOp) :
    matchDiscrete op (.number x) = matchDiscrete op (.number y) := by
  funext content
  cases op <;> cases content <;> rfl

theorem matchNumeric_of_place? (h : x.place? = y.place?) (op : CompareOp) (content : Json) :
    matchNumeric op (.number x) content = matchNumeric op (.number y) content := by
  cases content with
  | null => rfl
  | _ => exact op.holds_of_place? h _

/-- Of what a rarity comes to with a number, only the key that is not found shows the number. -/
theorem outcome_matchRarity (op : CompareOp) (content : Json) :
    outcome (matchRarity op (.number x) content)
      = outcome (matchRarity op (.number y) content) := by
  refine outcome_bind_congr rfl fun name => ?_
  cases Rarity.ofName? name <;> rfl

/-- **A comparison with numbers at one place** comes to the same for both. -/
theorem Card.outcome_holds (h : x.place? = y.place?) (c : Card) (field : Field) (op : CompareOp) :
    outcome (c.holds field op (.number x)) = outcome (c.holds field op (.number y)) := by
  cases field with
  | name =>
    cases op with
    | ne => exact congrArg outcome (congrFun (matchText_number .ne) _)
    | _ => exact congrArg (fun test => outcome (c.anyName test)) (matchText_number _)
  | oracle =>
    cases op with
    | ne => exact congrArg outcome (congrFun (matchText_number .ne) _)
    | _ =>
      exact congrArg (fun test => outcome (anyFace c.oracleText c.faceOracleTexts test))
        (matchText_number _)
  | type | mana | artist => exact congrArg outcome (congrFun (matchText_number op) _)
  | set | number | layout | lang => exact congrArg outcome (congrFun (matchDiscrete_number op) _)
  | color | identity | produces =>
    exact congrArg outcome (if_congr Iff.rfl rfl (op.holds_of_place? h _))
  | manaValue | power | toughness | loyalty | defense | year =>
    exact congrArg outcome (matchNumeric_of_place? h op _)
  | date => exact congrArg outcome (if_congr Iff.rfl (op.holds_of_place? h _) rfl)
  | rarity => exact outcome_matchRarity op _
  -- These look for a text, and what they do about a number is the same for all numbers.
  | keyword | game | format | banned | restricted | is | not => rfl

end OnePlace

/-! ## Canonical forms -/

theorem Double.toInt?_of_units {x : Double} (hx : x.isFinite = true) (h : x.units = 0) :
    x.toInt? = some 0 := by
  cases x with
  | nan | infinite => cases hx
  | finite =>
    rw [toInt?, h, signedUnits_eq_zero h]
    rfl

/-- A zero is a whole number in words, without its sign. -/
theorem Double.inWords_canonical (x : Double) : x.canonical.inWords = x.inWords := by
  rcases x.canonical_cases with ⟨⟨hfinite, hunits⟩, hzero⟩ | hself
  · rw [hzero, inWords, inWords, toInt?_of_units hfinite hunits]
    rfl
  · rw [hself]

theorem explainComparison_canonical (field : Field) (op : CompareOp) (value : Value) :
    explainComparison field op value.canonical = explainComparison field op value := by
  cases value with
  | number x =>
    have hwords : (Value.number x.canonical).explain = (Value.number x).explain :=
      x.inWords_canonical
    simp only [explainComparison, Value.canonical, hwords]
    rfl
  | _ => rfl

namespace Query

theorem isAnd_canonical (q : Query) : q.canonical.isAnd = q.isAnd := by
  cases q <;> rfl

theorem isOr_canonical (q : Query) : q.canonical.isOr = q.isOr := by
  cases q <;> rfl

/-- **A query and its canonical form read alike.** -/
theorem explain_canonical (q : Query) : q.canonical.explain = q.explain := by
  induction q with
  | compare field op value => exact explainComparison_canonical field op value
  | term | pattern => rfl
  | and left right ihl ihr =>
    change parenthesized left.canonical.isOr left.canonical.explain ++ " and "
        ++ parenthesized right.canonical.isOr right.canonical.explain = _
    rw [isOr_canonical, isOr_canonical, ihl, ihr]
    rfl
  | or left right ihl ihr =>
    change parenthesized left.canonical.isAnd left.canonical.explain ++ " or "
        ++ parenthesized right.canonical.isAnd right.canonical.explain = _
    rw [isAnd_canonical, isAnd_canonical, ihl, ihr]
    rfl
  | not operand ih => exact congrArg (fun text => "not (" ++ text ++ ")") ih

/-- **What a card comes to with a query and with its canonical form is the same.** -/
theorem outcome_matches_canonical (q : Query) (c : Card) :
    outcome (q.canonical.matches c) = outcome (q.matches c) := by
  induction q with
  | compare field op value =>
    cases value with
    | number x => exact c.outcome_holds x.place?_canonical field op
    | _ => rfl
  | term | pattern => rfl
  | and left right ihl ihr =>
    refine outcome_bind_congr ihl fun found => ?_
    cases found with
    | true => exact ihr
    | false => rfl
  | or left right ihl ihr =>
    refine outcome_bind_congr ihl fun found => ?_
    cases found with
    | true => rfl
    | false => exact ihr
  | not operand ih => exact outcome_bind_congr ih fun _ => rfl

variable {a b : Query}

/-- **Proper queries that are the same read alike.** -/
theorem explain_congr (ha : a.IsProper) (hb : b.IsProper) (h : a.same b = true) :
    a.explain = b.explain := by
  rw [← a.explain_canonical, (same_iff ha hb).mp h, b.explain_canonical]

/-- **A card comes to the same with proper queries that are the same.** -/
theorem outcome_matches_congr (ha : a.IsProper) (hb : b.IsProper) (h : a.same b = true) (c : Card) :
    outcome (a.matches c) = outcome (b.matches c) := by
  rw [← a.outcome_matches_canonical, (same_iff ha hb).mp h, b.outcome_matches_canonical]

end Query

/-! ## Sameness -/

/-- A query of proper values. -/
def ProperQuery : Type := { q : Query // q.IsProper }

namespace ProperQuery

/-- Sameness of proper queries is the equality of their canonical forms. -/
theorem same_equivalence : Equivalence fun a b : ProperQuery => a.1.same b.1 = true where
  refl a := (Query.same_iff a.2 a.2).mpr rfl
  symm {a b} h := (Query.same_iff b.2 a.2).mpr ((Query.same_iff a.2 b.2).mp h).symm
  trans {a b c} hab hbc := (Query.same_iff a.2 c.2).mpr
    (((Query.same_iff a.2 b.2).mp hab).trans ((Query.same_iff b.2 c.2).mp hbc))

/-- **Sameness is sound.**  On queries whose texts are texts and whose numbers are no NaNs it is an
equivalence.  Two of them that are the same have one hash, whatever texts, sets of colors and
sequences are hashed to; they read alike; and every card matches both or neither, or both fail with
one fault, except that a missing key may be shown otherwise. -/
theorem same_sound (h : Hasher) :
    (Equivalence fun a b : ProperQuery => a.1.same b.1 = true)
      ∧ ∀ a b : ProperQuery, a.1.same b.1 = true →
        (∃ n, a.1.hashBy h = .ok n ∧ b.1.hashBy h = .ok n)
          ∧ a.1.explain = b.1.explain
          ∧ ∀ card, outcome (a.1.matches card) = outcome (b.1.matches card) := by
  refine ⟨same_equivalence, fun ⟨a, ha⟩ ⟨b, hb⟩ hab => ⟨?_, ?_, ?_⟩⟩
  · obtain ⟨n, hn⟩ := Query.exists_hashBy_iff.mpr ha.isKey
    exact ⟨n, hn, (Query.hashBy_congr hab).symm.trans hn⟩
  · exact Query.explain_congr ha hb hab
  · exact Query.outcome_matches_congr ha hb hab

/-- Texts and sequences hashed like numerals, and a set of colors by its letters. -/
def numeralHasher : Hasher where
  text s := s.toList.foldl (fun n c => 31 * n + c.toNat) 1
  colors set := set.letters.foldl (fun n c => 31 * n + c.toNat) 1
  sequence := List.foldl (fun n m => 31 * n + m) 1
  null := 0
  nan := 0

/-- A query with a zero of either sign, which asks for a rarity that there is not. -/
def zeros (negative : Bool) : ProperQuery where
  val := .not (.and (.compare .power .eq (.number (.zero negative)))
    (.compare .rarity .ge (.number (.zero negative))))
  property := by
    have hzero : Double.zero negative ≠ .nan := nofun
    exact ⟨hzero, hzero⟩

/-- A card with a power of zero and a rarity. -/
def wall : Card := { Card.named (.string "Wall") with power := .int 0, rarity := .string "common" }

theorem zeros_alike :
    (zeros true).1.same (zeros false).1 = true
      ∧ (∃ n, (zeros true).1.hashBy numeralHasher = .ok n
          ∧ (zeros false).1.hashBy numeralHasher = .ok n)
      ∧ (zeros true).1.explain = (zeros false).1.explain
      ∧ outcome ((zeros true).1.matches wall) = outcome ((zeros false).1.matches wall)
      ∧ (zeros true).1.matches wall = .error (.missingKey "-0.0")
      ∧ (zeros false).1.matches wall = .error (.missingKey "0.0") := by
  have hsame : (zeros true).1.same (zeros false).1 = true := by decide +kernel
  obtain ⟨hhash, hexplain, houtcome⟩ := (same_sound numeralHasher).2 _ _ hsame
  exact ⟨hsame, hhash, hexplain, houtcome wall, rfl, rfl⟩

end ProperQuery

end CardQuery

import CardQuery.Proofs.Grammar.Atoms
import CardQuery.Proofs.Number.Order
import CardQuery.Proofs.Outcome
import CardQuery.Proofs.Typing.Evaluation

/-!
# Proofs/Typing/Attributes — what a query looks at

* `Query.parse_reads_attributes` — a query that a text makes, without a comparison of properties,
  finds both of two cards or neither if they agree on the attributes of its fields.

A field is about one attribute of a card, except that names and oracle texts are looked for in the
faces as well, and that a stat is compared with a star by its printed text (`Field.attributes`).
Cards agree on an attribute if they hold values there that are alike: the same, numbers of one size,
or tables with the same members.
-/

namespace CardQuery

open Json

/-! ## Values that are alike -/

/-- **Two values that are alike.** -/
inductive Json.Alike : Json → Json → Prop
  | refl (j : Json) : Alike j j
  | number {a b : Json} {m n : Json.Quantity} (ha : a.quantity? = some m)
    (hb : b.quantity? = some n) (h : m.order? n = some .eq) : Alike a b
  | table {ms ns : List (String × Json)} (h : ∀ key, Json.find? key ms = Json.find? key ns) :
    Alike (.object ms) (.object ns)

namespace Json.Alike

variable {a b : Json}

theorem eq_of_isText (h : Alike a b) (ha : IsText a) : a = b := by
  obtain ⟨s, rfl⟩ := ha
  cases h with
  | refl => rfl
  | number ha => cases ha

theorem eq_of_orNull (h : Alike a b) (ha : OrNull IsText a) : a = b := by
  rcases ha with rfl | ha
  · cases h with
    | refl => rfl
    | number ha => cases ha
  · exact h.eq_of_isText ha

theorem eq_of_isTexts (h : Alike a b) (ha : IsTexts a) : a = b := by
  obtain ⟨xs, rfl, -⟩ := ha
  cases h with
  | refl => rfl
  | number ha => cases ha

/-- A number compares with a double as its quantity does. -/
theorem matchNumeric_eq {m : Json.Quantity} (ha : a.quantity? = some m) (op : CompareOp)
    (x : Double) : matchNumeric op (.number x) a = .ok (match op with
      | .colon | .eq => m.order? (.double x) == some .eq
      | .ne => !(m.order? (.double x) == some .eq)
      | op => op.admits (m.order? (.double x))) := by
  cases a with
  | bool b | int n | double y =>
    cases ha
    cases op <;> rfl
  | _ => cases ha

/-- A number compares like one that is alike. -/
theorem matchNumeric_congr (h : Alike a b) (ha : OrNull IsNumber a) (op : CompareOp) (x : Double) :
    matchNumeric op (.number x) a = matchNumeric op (.number x) b := by
  cases h with
  | refl => rfl
  | number hm hn horder =>
    rw [matchNumeric_eq hm, matchNumeric_eq hn, (Json.Quantity.order?_congr horder _).1]
  | table =>
    rcases ha with hnull | ⟨x, hx⟩ | ⟨n, hn⟩
    · cases hnull
    · cases hx
    · cases hn

/-- A table is looked up like one that is alike. -/
theorem statusOf_congr (h : Alike a b) (ha : IsTable a) (value : Value) :
    statusOf a value = statusOf b value := by
  have hmembers (ms : List (String × Json)) :
      ((Json.object ms).orElse (.object [])).asMembers = .ok ms := by
    cases ms <;> rfl
  obtain ⟨ms, rfl, -⟩ := ha
  cases h with
  | refl => rfl
  | number ha => cases ha
  | table h =>
    rw [statusOf, statusOf, hmembers, hmembers, ok_bind, ok_bind]
    split
    · rw [h]
    · rfl
    · rfl
    · rfl

theorem matchLegality_congr (h : Alike a b) (ha : IsTable a) (field : Field) (op : CompareOp)
    (value : Value) : matchLegality field op value a = matchLegality field op value b := by
  rw [matchLegality, matchLegality, h.statusOf_congr ha]

end Json.Alike

/-! ## Attributes -/

/-- An attribute of a card that a query can look at. -/
inductive Attribute where
  | name | faceNames | typeLine | oracleText | faceOracleTexts | manaCost | artist | keywords | games
  | colors | colorIdentity | producedMana | manaValue | power | toughness | loyalty | defense
  | powerText | toughnessText | loyaltyText | defenseText | year | releasedAt | rarity | setCode
  | collectorNumber | layout | lang | legalities
deriving DecidableEq, Repr

/-- Whether a value is the star of a stat. -/
def Value.isStar : Value → Bool
  | .keyword word => word == "*"
  | _ => false

/-- **The attributes that a comparison looks at.** -/
def Field.attributes (field : Field) (value : Value) : List Attribute :=
  match field with
  | name => [.name, .faceNames]
  | type => [.typeLine]
  | oracle => [.oracleText, .faceOracleTexts]
  | mana => [.manaCost]
  | artist => [.artist]
  | keyword => [.keywords]
  | game => [.games]
  | color => [.colors]
  | identity => [.colorIdentity]
  | produces => [.producedMana]
  | manaValue => [.manaValue]
  | power => [if value.isStar then .powerText else .power]
  | toughness => [if value.isStar then .toughnessText else .toughness]
  | loyalty => [if value.isStar then .loyaltyText else .loyalty]
  | defense => [if value.isStar then .defenseText else .defense]
  | year => [.year]
  | date => [.releasedAt]
  | rarity => [.rarity]
  | set => [.setCode]
  | number => [.collectorNumber]
  | layout => [.layout]
  | lang => [.lang]
  | format | banned | restricted => [.legalities]
  | is | not => []

/-- **The attributes that a query looks at.** -/
def Query.attributes : Query → List Attribute
  | compare field _ value => field.attributes value
  | term _ | pattern _ => [.name, .faceNames]
  | and left right | or left right => left.attributes ++ right.attributes
  | not operand => operand.attributes

/-- Whether a query asks for no property. -/
def Query.asksNoProperty : Query → Bool
  | compare field _ _ => field != .is && field != .not
  | term _ | pattern _ => true
  | and left right | or left right => left.asksNoProperty && right.asksNoProperty
  | not operand => operand.asksNoProperty

namespace Card

/-- **Two cards agree on an attribute.** -/
def AgreeOn (c d : Card) : Attribute → Prop
  | .name => c.name.Alike d.name
  | .faceNames => c.faceNames.Alike d.faceNames
  | .typeLine => c.typeLine.Alike d.typeLine
  | .oracleText => c.oracleText.Alike d.oracleText
  | .faceOracleTexts => c.faceOracleTexts.Alike d.faceOracleTexts
  | .manaCost => c.manaCost.Alike d.manaCost
  | .artist => c.artist.Alike d.artist
  | .keywords => c.keywords.Alike d.keywords
  | .games => c.games.Alike d.games
  | .colors => c.colors = d.colors
  | .colorIdentity => c.colorIdentity = d.colorIdentity
  | .producedMana => c.producedMana = d.producedMana
  | .manaValue => c.manaValue.Alike d.manaValue
  | .power => c.power.Alike d.power
  | .toughness => c.toughness.Alike d.toughness
  | .loyalty => c.loyalty.Alike d.loyalty
  | .defense => c.defense.Alike d.defense
  | .powerText => c.powerText.Alike d.powerText
  | .toughnessText => c.toughnessText.Alike d.toughnessText
  | .loyaltyText => c.loyaltyText.Alike d.loyaltyText
  | .defenseText => c.defenseText.Alike d.defenseText
  | .year => c.year.Alike d.year
  | .releasedAt => c.releasedAt.Alike d.releasedAt
  | .rarity => c.rarity.Alike d.rarity
  | .setCode => c.setCode.Alike d.setCode
  | .collectorNumber => c.collectorNumber.Alike d.collectorNumber
  | .layout => c.layout.Alike d.layout
  | .lang => c.lang.Alike d.lang
  | .legalities => c.legalities.Alike d.legalities

variable {c d : Card} {field : Field} {op : CompareOp} {value : Value}

/-- Texts that are alike and alike on the faces are searched alike. -/
theorem anyFace_congr {own own' faces faces' : Json} (hown : own.Alike own')
    (hfaces : faces.Alike faces') (hownType : IsText own) (hfacesType : IsTexts faces) :
    anyFace own faces = anyFace own' faces' := by
  rw [hown.eq_of_isText hownType, hfaces.eq_of_isTexts hfacesType]

/-- Cards that agree on names and face names are searched by name alike. -/
theorem anyName_congr (hc : c.WellFormed) (h : ∀ a ∈ [Attribute.name, .faceNames], c.AgreeOn d a) :
    c.anyName = d.anyName :=
  anyFace_congr (h .name List.mem_cons_self)
    (h .faceNames (List.mem_cons_of_mem _ List.mem_cons_self)) hc.name hc.faceNames

/-- **A comparison only looks at its attributes.** -/
theorem holds_congr (hc : c.WellFormed) (hv : value.Fits field op)
    (hproperty : field ≠ .is ∧ field ≠ .not)
    (h : ∀ a ∈ field.attributes value, c.AgreeOn d a) :
    c.holds field op value = d.holds field op value := by
  have hnumber : field.kind = .numeric → OrNull IsNumber (c.content field) := hc.content_isNumber
  cases field with
  | name =>
    cases op with
    | ne =>
      exact congrArg (matchText .ne value)
        (Alike.eq_of_isText (h .name List.mem_cons_self) hc.name)
    | _ => exact congrFun (anyName_congr hc h) _
  | oracle =>
    have htext := h .oracleText List.mem_cons_self
    have hfaces := h .faceOracleTexts (List.mem_cons_of_mem _ List.mem_cons_self)
    have hany := anyFace_congr htext hfaces hc.oracleText hc.faceOracleTexts
    cases op with
    | ne => exact congrArg (matchText .ne value) (Alike.eq_of_isText htext hc.oracleText)
    | _ => exact congrFun hany _
  | type | mana | artist =>
    exact congrArg (matchText op value)
      (Alike.eq_of_isText (h _ List.mem_cons_self) (hc.content_isText (.inl rfl)))
  | set | number | layout | lang =>
    exact congrArg (matchDiscrete op value)
      (Alike.eq_of_isText (h _ List.mem_cons_self) (hc.content_isText (.inr (.inl rfl))))
  | rarity =>
    exact congrArg (matchRarity op value)
      (Alike.eq_of_isText (h _ List.mem_cons_self) (hc.content_isText (.inr (.inr rfl))))
  | keyword | game =>
    exact congrArg (matchList op value)
      (Alike.eq_of_isTexts (h _ List.mem_cons_self) (hc.content_isTexts rfl))
  | color | identity | produces =>
    exact congrArg (matchColor _ op value) (h _ List.mem_cons_self)
  | manaValue | year =>
    rcases hv with ⟨x, rfl⟩ | ⟨-, hstat, -⟩
    · exact Alike.matchNumeric_congr (h _ List.mem_cons_self) (hnumber rfl) op x
    · cases hstat
  | power | toughness | loyalty | defense =>
    rcases hv with ⟨x, rfl⟩ | ⟨rfl, -, -⟩
    · exact Alike.matchNumeric_congr (h _ List.mem_cons_self) (hnumber rfl) op x
    · exact congrArg (matchStar op)
        (Alike.eq_of_orNull (h _ List.mem_cons_self) hc.printed_isText)
  | date =>
    exact congrArg (matchDate op value)
      (Alike.eq_of_orNull (h _ List.mem_cons_self) (hc.content_isDate rfl))
  | format | banned | restricted =>
    exact Alike.matchLegality_congr (h _ List.mem_cons_self) hc.legalities _ op value
  | is => exact absurd rfl hproperty.1
  | not => exact absurd rfl hproperty.2

end Card

namespace Query

variable {q : Query} {c d : Card}

/-- **A well-typed query only looks at its attributes.** -/
theorem matches_congr (hq : q.WellTyped) (hproperty : q.asksNoProperty = true) (hc : c.WellFormed)
    (h : ∀ a ∈ q.attributes, c.AgreeOn d a) : q.matches c = q.matches d := by
  induction q with
  | compare field op value =>
    have hfield : field ≠ .is ∧ field ≠ .not := by
      simpa [asksNoProperty] using hproperty
    exact c.holds_congr hc hq.2.1 hfield h
  | term content | pattern p =>
    rw [Query.matches, Query.matches, Card.anyName_congr hc h]
  | and left right ihl ihr | or left right ihl ihr =>
    obtain ⟨hleft, hright⟩ := Bool.and_eq_true_iff.mp hproperty
    obtain ⟨hl, hr⟩ := List.forall_mem_append.mp h
    rw [Query.matches, Query.matches, ihl hq.1 hleft hl, ihr hq.2 hright hr]
  | not operand ih =>
    rw [Query.matches, Query.matches, ih hq hproperty h]

/-- **Only what a query mentions affects its result.**  Take a query that a text makes, without a
comparison of properties, and two well-formed cards that agree on the attributes of its fields.  It
is decided for both of them, and finds both or neither. -/
theorem parse_reads_attributes {text : String} (h : parse text = .ok q)
    (hproperty : q.asksNoProperty = true) (hc : c.WellFormed)
    (hagree : ∀ a ∈ q.attributes, c.AgreeOn d a) :
    ∃ b, q.matches c = .ok b ∧ q.matches d = .ok b := by
  have hq := parse_wellTyped h
  obtain ⟨b, hb⟩ := hc.matches_succeeds hq
  exact ⟨b, hb, (matches_congr hq hproperty hc hagree).symm.trans hb⟩

/-- A card with a power and two formats. -/
def knight : Card :=
  { Card.named (.string "Knight") with
    power := .int 3
    legalities := .object [("modern", .string "legal"), ("legacy", .string "banned")] }

/-- Another card with the same power, written otherwise, and the same formats in another order. -/
def wall : Card :=
  { Card.named (.string "Wall") with
    power := .double (Double.ofInt 3)
    toughness := .int 8
    legalities := .object [("legacy", .string "banned"), ("modern", .string "legal")] }

theorem knight_found_like_wall : ∃ q b, parse "pow>=2.5 (f:modern or -t:human)" = .ok q
    ∧ q.matches knight = .ok b ∧ q.matches wall = .ok b := by
  have hcheck : (parse "pow>=2.5 (f:modern or -t:human)").toOption.any (fun q =>
      q.asksNoProperty && q.attributes == [.power, .legalities, .typeLine]) = true := by
    decide +kernel
  obtain ⟨q, hq, hcheck⟩ := (Option.any_eq_true ..).mp hcheck
  obtain ⟨hproperty, hattributes⟩ := Bool.and_eq_true_iff.mp hcheck
  have hknight : knight.WellFormed :=
    { Card.named_wellFormed "Knight" with
      power := .inr (.inr ⟨3, rfl⟩)
      legalities := ⟨_, rfl, by simp [isText_string]⟩ }
  have hpower : knight.AgreeOn wall .power := .number rfl rfl (by decide +kernel)
  have hlegalities : knight.AgreeOn wall .legalities := by
    refine .table fun key => ?_
    simp only [Json.find?]
    split
    · rename_i hmodern
      rw [← hmodern, if_neg (by decide)]
    · rfl
  have hagree : ∀ a ∈ q.attributes, knight.AgreeOn wall a := by
    rw [eq_of_beq hattributes]
    exact List.forall_mem_cons.mpr ⟨hpower, List.forall_mem_cons.mpr ⟨hlegalities,
      List.forall_mem_cons.mpr ⟨.refl _, List.forall_mem_nil _⟩⟩⟩
  have hparse := eq_ok_of_toOption hq
  obtain ⟨b, hfound, hfound'⟩ := parse_reads_attributes hparse hproperty hknight hagree
  exact ⟨q, b, hparse, hfound, hfound'⟩

end Query

end CardQuery

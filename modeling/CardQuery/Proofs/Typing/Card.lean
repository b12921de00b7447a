import CardQuery.Match

/-!
# Proofs/Typing/Card — cards of the declared types

A `WellFormed` card has a text where a text is declared, a list of texts where a list is, and so on;
what a card may be without is null.  Nothing is said about what the texts say.

* `satisfies_succeeds` — every property of a well-formed card is decided.

A computation *succeeds* if it ends in no fault.  That is closed under sequencing, so each reader of
a card succeeds because its parts do.
-/

namespace CardQuery

/-! ## Computations without faults -/

/-- A computation that ends in no fault. -/
def Succeeds {α : Type} (x : Except Fault α) : Prop := ∃ a, x = .ok a

section Succeeds

variable {α β : Type}

theorem succeeds_ok (a : α) : Succeeds (.ok a) := ⟨a, rfl⟩

@[simp] theorem succeeds_pure (a : α) : Succeeds (pure a) := ⟨a, rfl⟩

theorem Succeeds.bind {x : Except Fault α} {f : α → Except Fault β} (hx : Succeeds x)
    (hf : ∀ a, Succeeds (f a)) : Succeeds (x >>= f) := by
  obtain ⟨a, rfl⟩ := hx
  exact hf a

theorem Succeeds.map {x : Except Fault α} (hx : Succeeds x) (f : α → β) :
    Succeeds (do return f (← x)) :=
  hx.bind fun a => succeeds_pure (f a)

/-- Two steps succeed exactly if the first does, where what the second needs is the same after any
value. -/
theorem succeeds_bind_iff {x : Except Fault α} {f : α → Except Fault β} {P : Prop}
    (h : ∀ a, Succeeds (f a) ↔ P) : Succeeds (x >>= f) ↔ Succeeds x ∧ P := by
  constructor
  · rintro ⟨b, hb⟩
    obtain ⟨a, ha, hb⟩ := bind_eq_ok_iff.mp hb
    exact ⟨⟨a, ha⟩, (h a).mp ⟨b, hb⟩⟩
  · rintro ⟨⟨a, rfl⟩, hP⟩
    exact (h a).mpr hP

/-- A test that settles the answer if it succeeds, or else leaves it to another one. -/
theorem Succeeds.ite_bind {x : Except Fault Bool} {y z : Except Fault β} (hx : Succeeds x)
    (hy : Succeeds y) (hz : Succeeds z) : Succeeds (do if ← x then y else z) :=
  hx.bind fun b => by
    cases b
    · exact hz
    · exact hy

end Succeeds

theorem anyOf_succeeds {test : Json → Except Fault Bool} {xs : List Json}
    (h : ∀ x ∈ xs, Succeeds (test x)) : Succeeds (anyOf test xs) := by
  induction xs with
  | nil => exact succeeds_ok false
  | cons x xs ih =>
    rw [anyOf]
    exact (h x List.mem_cons_self).ite_bind (succeeds_pure true)
      (ih fun y hy => h y (List.mem_cons_of_mem x hy))

/-! ## Types of values -/

namespace Json

/-- A text. -/
def IsText (j : Json) : Prop := ∃ s, j = .string s

/-- A number. -/
def IsNumber (j : Json) : Prop := (∃ x, j = .double x) ∨ ∃ n, j = .int n

/-- A truth value. -/
def IsBool (j : Json) : Prop := ∃ b, j = .bool b

/-- A list of texts. -/
def IsTexts (j : Json) : Prop := ∃ xs, j = .array xs ∧ ∀ x ∈ xs, IsText x

/-- A table of texts. -/
def IsTable (j : Json) : Prop := ∃ ms, j = .object ms ∧ ∀ m ∈ ms, IsText m.2

/-- A value of a type, or null in its place. -/
def OrNull (P : Json → Prop) (j : Json) : Prop := j = .null ∨ P j

variable {j : Json}

theorem isText_string (s : String) : IsText (.string s) := ⟨s, rfl⟩

theorem IsText.orElse (h : IsText j) (s : String) : IsText (j.orElse (.string s)) := by
  rw [Json.orElse]
  split
  · exact h
  · exact isText_string s

theorem IsTexts.orElse (h : IsTexts j) : IsTexts (j.orElse (.array [])) := by
  rw [Json.orElse]
  split
  · exact h
  · exact ⟨[], rfl, nofun⟩

theorem IsTable.orElse (h : IsTable j) : IsTable (j.orElse (.object [])) := by
  rw [Json.orElse]
  split
  · exact h
  · exact ⟨[], rfl, nofun⟩

theorem IsTexts.items (h : IsTexts j) : ∃ xs, j.items = .ok xs ∧ ∀ x ∈ xs, IsText x := by
  obtain ⟨xs, rfl, hxs⟩ := h
  exact ⟨xs, rfl, hxs⟩

theorem isText_of_find? {key : String} {ms : List (String × Json)} (h : ∀ m ∈ ms, IsText m.2)
    (hj : find? key ms = some j) : IsText j := by
  induction ms with
  | nil => cases hj
  | cons m ms ih =>
    rw [find?] at hj
    split at hj
    · cases hj
      exact h m List.mem_cons_self
    · exact ih (fun n hn => h n (List.mem_cons_of_mem m hn)) hj

end Json

/-! ## Cards -/

namespace Card

open Json

/-- **A card whose parts have the declared types.** -/
structure WellFormed (c : Card) : Prop where
  name : IsText c.name
  typeLine : IsText c.typeLine
  oracleText : IsText c.oracleText
  manaCost : IsText c.manaCost
  artist : IsText c.artist
  faceNames : IsTexts c.faceNames
  faceTypeLines : IsTexts c.faceTypeLines
  faceOracleTexts : IsTexts c.faceOracleTexts
  keywords : IsTexts c.keywords
  games : IsTexts c.games
  finishes : IsTexts c.finishes
  colors : ∃ colors, c.colors = some colors
  colorIdentity : ∃ colors, c.colorIdentity = some colors
  manaValue : OrNull IsNumber c.manaValue
  power : OrNull IsNumber c.power
  toughness : OrNull IsNumber c.toughness
  loyalty : OrNull IsNumber c.loyalty
  defense : OrNull IsNumber c.defense
  powerText : OrNull IsText c.powerText
  toughnessText : OrNull IsText c.toughnessText
  loyaltyText : OrNull IsText c.loyaltyText
  defenseText : OrNull IsText c.defenseText
  year : OrNull IsNumber c.year
  releasedAt : OrNull IsText c.releasedAt
  rarity : IsText c.rarity
  setCode : IsText c.setCode
  collectorNumber : IsText c.collectorNumber
  layout : IsText c.layout
  lang : IsText c.lang
  legalities : IsTable c.legalities
  reserved : IsBool c.reserved
  reprint : IsBool c.reprint
  promo : IsBool c.promo
  fullArt : IsBool c.fullArt
  digital : IsBool c.digital

/-- A card of which nothing but the name is known is well formed. -/
theorem named_wellFormed (s : String) : (named (.string s)).WellFormed := by
  constructor <;>
    first
      | exact isText_string _
      | exact ⟨[], rfl, nofun⟩
      | exact ⟨_, rfl⟩
      | exact .inl rfl

/-! ## What a field is about -/

section Content

variable {c : Card} {field : Field}

theorem WellFormed.content_isText (h : c.WellFormed)
    (hk : field.kind = .text ∨ field.kind = .discrete ∨ field.kind = .rarity) :
    IsText (c.content field) := by
  cases field <;> try simp [Field.kind, Field.info] at hk
  case name => exact h.name
  case type => exact h.typeLine
  case oracle => exact h.oracleText
  case mana => exact h.manaCost
  case artist => exact h.artist
  case rarity => exact h.rarity
  case set => exact h.setCode
  case number => exact h.collectorNumber
  case layout => exact h.layout
  case lang => exact h.lang

theorem WellFormed.content_isTexts (h : c.WellFormed) (hk : field.kind = .list) :
    IsTexts (c.content field) := by
  cases field <;> try cases hk
  case keyword => exact h.keywords
  case game => exact h.games

theorem WellFormed.content_isNumber (h : c.WellFormed) (hk : field.kind = .numeric) :
    OrNull IsNumber (c.content field) := by
  cases field <;> try cases hk
  case manaValue => exact h.manaValue
  case power => exact h.power
  case toughness => exact h.toughness
  case loyalty => exact h.loyalty
  case defense => exact h.defense
  case year => exact h.year

theorem WellFormed.content_isDate (h : c.WellFormed) (hk : field.kind = .date) :
    OrNull IsText (c.content field) := by
  cases field <;> try cases hk
  case date => exact h.releasedAt

theorem WellFormed.content_isTable (h : c.WellFormed) (hk : field.kind = .legality) :
    IsTable (c.content field) := by
  cases field <;> try cases hk
  all_goals exact h.legalities

theorem WellFormed.printed_isText (h : c.WellFormed) : OrNull IsText (c.printed field) := by
  cases field <;> try exact .inl rfl
  case power => exact h.powerText
  case toughness => exact h.toughnessText
  case loyalty => exact h.loyaltyText
  case defense => exact h.defenseText

end Content

/-! ## Properties -/

theorem lowered_succeeds {j : Json} (h : IsText j) : Succeeds (lowered j) := by
  obtain ⟨s, rfl⟩ := h
  exact ⟨Text.lower s, rfl⟩

theorem leadsByType_succeeds {lines : List Json} (h : ∀ line ∈ lines, IsText line) :
    Succeeds (leadsByType lines) := by
  induction lines with
  | nil => exact succeeds_ok false
  | cons line lines ih =>
    rw [leadsByType]
    refine (lowered_succeeds (h line List.mem_cons_self)).bind fun lowered => ?_
    split
    · exact succeeds_pure true
    · exact ih fun l hl => h l (List.mem_cons_of_mem line hl)

theorem leadsByText_succeeds {texts : List Json} (h : ∀ text ∈ texts, IsText text) :
    Succeeds (leadsByText texts) := by
  induction texts with
  | nil => exact succeeds_ok false
  | cons text texts ih =>
    rw [leadsByText]
    refine (lowered_succeeds (h text List.mem_cons_self)).bind fun lowered => ?_
    split
    · exact succeeds_pure true
    · exact ih fun t ht => h t (List.mem_cons_of_mem text ht)

namespace WellFormed

variable {c : Card} (h : c.WellFormed)
include h

theorem canLead_succeeds : Succeeds c.canLead := by
  obtain ⟨lines, hlines, hlinesText⟩ := h.faceTypeLines.items
  obtain ⟨texts, htexts, htextsText⟩ := h.faceOracleTexts.items
  have hall : ∀ line ∈ c.typeLine :: lines, IsText line :=
    List.forall_mem_cons.mpr ⟨h.typeLine, hlinesText⟩
  have hall' : ∀ text ∈ c.oracleText :: texts, IsText text :=
    List.forall_mem_cons.mpr ⟨h.oracleText, htextsText⟩
  rw [canLead, hlines, htexts]
  exact (leadsByType_succeeds hall).ite_bind (succeeds_pure true) (leadsByText_succeeds hall')

theorem isVanilla_succeeds : Succeeds c.isVanilla := by
  obtain ⟨s, hs⟩ := h.oracleText
  rw [isVanilla]
  refine (lowered_succeeds h.typeLine).bind fun line => ?_
  rw [hs]
  split
  · exact succeeds_pure _
  · exact succeeds_pure false

theorem colorCount_succeeds : Succeeds c.colorCount := by
  obtain ⟨colors, hc⟩ := h.colors
  rw [colorCount, hc]
  exact succeeds_ok colors.size

theorem raisedManaCost_succeeds : Succeeds c.raisedManaCost := by
  obtain ⟨s, hs⟩ := h.manaCost
  rw [raisedManaCost, hs]
  exact succeeds_pure _

/-- **Every property of a well-formed card is decided.** -/
theorem satisfies_succeeds (flag : Flag) : Succeeds (c.satisfies flag) := by
  cases flag with
  | marked m => exact succeeds_ok _
  | finish name =>
    obtain ⟨xs, hxs, -⟩ := h.finishes
    rw [satisfies, hxs]
    exact succeeds_ok _
  | layout names => exact succeeds_ok _
  | types words =>
    exact (lowered_succeeds h.typeLine).map fun line => words.any (Text.hasPiece line)
  | commander => exact h.canLead_succeeds
  | vanilla => exact h.isVanilla_succeeds
  | manyColors => exact h.colorCount_succeeds.map fun n => decide (1 < n)
  | oneColor => exact h.colorCount_succeeds.map fun n => n == 1
  | noColor => exact succeeds_ok _
  | hybrid => exact h.raisedManaCost_succeeds.map (somewhere startsHybrid)
  | phyrexian => exact h.raisedManaCost_succeeds.map (somewhere startsPhyrexian)

theorem hasFlag_succeeds (name : String) : Succeeds (c.hasFlag name) := by
  rw [hasFlag]
  split
  · exact h.satisfies_succeeds _
  · exact succeeds_ok false

end WellFormed

end Card

end CardQuery

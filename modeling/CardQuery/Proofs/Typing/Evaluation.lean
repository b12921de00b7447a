import CardQuery.Proofs.Typing.Card
import CardQuery.Proofs.Typing.Query

/-!
# Proofs/Typing/Evaluation — a well-typed query is decided

* `parse_typed_and_decided` — the query of a text is well typed, and it is decided for every
  well-formed card.

There is a lemma for each way of comparing, which takes the form of the value from the type of the
query and the type of the content from the card; `WellFormed.holds_succeeds` picks the one of the
field.
-/

namespace CardQuery

open Json

/-! ## Order and equality -/

theorem IsNumber.order? {a b : Json} (ha : IsNumber a) (hb : IsNumber b) :
    ∃ outcome, a.order? b = some outcome := by
  rcases ha with ⟨x, rfl⟩ | ⟨m, rfl⟩ <;> rcases hb with ⟨y, rfl⟩ | ⟨n, rfl⟩ <;> exact ⟨_, rfl⟩

/-- Values with an order are compared by every operator. -/
theorem CompareOp.holds_succeeds (op : CompareOp) {a b : Json}
    (h : ∃ outcome, a.order? b = some outcome) : Succeeds (op.holds a (some b)) := by
  obtain ⟨outcome, ho⟩ := h
  unfold holds
  split
  · exact succeeds_ok _
  · exact succeeds_ok _
  · exact succeeds_ok _
  · rw [Option.bind_some, ho]
    exact succeeds_ok _

/-! ## Texts and lists -/

section Matchers

variable {field : Field} {op : CompareOp} {value : Value} {content : Json}

/-- A value that texts are compared with. -/
def Value.IsTextual (v : Value) : Prop := (∃ s, v = .text (.string s)) ∨ ∃ p, v = .pattern p

theorem search_succeeds (p : Pattern) (h : IsText content) : Succeeds (p.search content) := by
  obtain ⟨s, rfl⟩ := h
  exact succeeds_ok _

theorem matchText_succeeds (op : CompareOp) (hv : value.IsTextual) (hc : IsText content) :
    Succeeds (matchText op value content) := by
  obtain ⟨hay, rfl⟩ := hc
  rcases hv with ⟨s, rfl⟩ | ⟨p, rfl⟩
  · cases op <;> exact succeeds_ok _
  · exact (search_succeeds p ⟨hay, rfl⟩).map (· != (op == .ne))

theorem matchDiscrete_succeeds (op : CompareOp) (hv : value.IsTextual) (hc : IsText content) :
    Succeeds (matchDiscrete op value content) := by
  unfold matchDiscrete
  split
  · exact matchText_succeeds .colon hv hc
  · exact succeeds_ok false
  · exact matchText_succeeds .eq hv hc
  · exact matchText_succeeds op hv hc

theorem matchList_succeeds (op : CompareOp) (hv : value.IsTextual) (hc : IsTexts content) :
    Succeeds (matchList op value content) := by
  obtain ⟨xs, hxs, htexts⟩ := hc.orElse.items
  unfold matchList
  rcases hv with ⟨s, rfl⟩ | ⟨p, rfl⟩
  · refine Succeeds.bind (succeeds_ok (Text.lower s)) fun needle => ?_
    dsimp only
    rw [hxs]
    refine (anyOf_succeeds fun x hx => ?_).map (· != (op == .ne))
    exact (Card.lowered_succeeds (htexts x hx)).map _
  · dsimp only
    rw [hxs]
    exact (anyOf_succeeds fun x hx => search_succeeds p (htexts x hx)).map (· != (op == .ne))

/-! ## Colors, numbers, dates and rarities -/

theorem matchColor_succeeds (field : Field) (op : CompareOp) (colors : Option ColorSet)
    (hv : (∃ x, value = .number x) ∨ ∃ set, value = .colors set) :
    Succeeds (matchColor field op value colors) := by
  unfold matchColor
  split
  · exact succeeds_ok false
  rcases hv with ⟨x, rfl⟩ | ⟨set, rfl⟩
  · exact op.holds_succeeds (IsNumber.order? (.inr ⟨_, rfl⟩) (.inl ⟨x, rfl⟩))
  · exact succeeds_ok _

theorem matchNumeric_succeeds (op : CompareOp) (x : Double) (hc : OrNull IsNumber content) :
    Succeeds (matchNumeric op (.number x) content) := by
  unfold matchNumeric
  rcases hc with rfl | hc
  · exact succeeds_ok false
  split
  · exact succeeds_ok false
  · exact op.holds_succeeds (IsNumber.order? hc (.inl ⟨x, rfl⟩))

theorem matchStar_succeeds (op : CompareOp) (hc : OrNull IsText content) :
    Succeeds (matchStar op content) := by
  rcases hc with rfl | ⟨s, rfl⟩ <;> exact succeeds_ok _

theorem matchDate_succeeds (op : CompareOp) (w : String) (hc : OrNull IsText content) :
    Succeeds (matchDate op (.keyword w) content) := by
  unfold matchDate
  rcases hc with rfl | ⟨s, rfl⟩
  · exact succeeds_ok false
  split
  · exact op.holds_succeeds ⟨_, rfl⟩
  · exact succeeds_ok false

theorem rankOf_name (r : Rarity) : rankOf (.keyword r.name) = .ok r.rank := by
  cases r <;> rfl

theorem matchRarity_succeeds (op : CompareOp) (r : Rarity) (hc : IsText content) :
    Succeeds (matchRarity op (.keyword r.name) content) := by
  unfold matchRarity
  refine (Card.lowered_succeeds (hc.orElse "")).bind fun name => ?_
  rw [rankOf_name]
  split <;> exact succeeds_pure _

/-! ## Legalities and properties -/

theorem statusOf_eq_ok (w : String) (hc : IsTable content) :
    ∃ status, statusOf content (.keyword w) = .ok status ∧ OrNull IsText status := by
  obtain ⟨ms, hms, htexts⟩ := hc.orElse
  refine ⟨(Json.find? w ms).getD .null, ?_, ?_⟩
  · rw [statusOf, hms]
    rfl
  · cases hfind : Json.find? w ms with
    | none => exact .inl rfl
    | some j => exact .inr (isText_of_find? htexts hfind)

theorem matchLegality_succeeds (field : Field) (op : CompareOp) (w : String)
    (hc : IsTable content) : Succeeds (matchLegality field op (.keyword w) content) := by
  obtain ⟨status, hstatus, hkey⟩ := statusOf_eq_ok w hc
  rw [matchLegality, hstatus]
  rcases hkey with rfl | ⟨s, rfl⟩ <;> exact succeeds_ok _

theorem matchFlag_succeeds (field : Field) (op : CompareOp) (w : String) {c : Card}
    (h : c.WellFormed) : Succeeds (matchFlag field op (.keyword w) c) :=
  (h.hasFlag_succeeds w).map fun found => (found != (field == .not)) != (op == .ne)

end Matchers

/-! ## Comparisons and queries -/

namespace Card.WellFormed

variable {c : Card} (h : c.WellFormed)
include h

theorem anyName_succeeds {test : Json → Except Fault Bool}
    (ht : ∀ j, IsText j → Succeeds (test j)) : Succeeds (c.anyName test) := by
  obtain ⟨xs, hxs, htexts⟩ := h.faceNames.items
  rw [anyName, anyFace, hxs]
  exact (ht c.name h.name).ite_bind (succeeds_pure true)
    (anyOf_succeeds fun x hx => ht x (htexts x hx))

theorem anyOracleText_succeeds {test : Json → Except Fault Bool}
    (ht : ∀ j, IsText j → Succeeds (test j)) :
    Succeeds (anyFace c.oracleText c.faceOracleTexts test) := by
  obtain ⟨xs, hxs, htexts⟩ := h.faceOracleTexts.items
  rw [anyFace, hxs]
  exact (ht c.oracleText h.oracleText).ite_bind (succeeds_pure true)
    (anyOf_succeeds fun x hx => ht x (htexts x hx))

/-- **A comparison with a value that fits is decided.** -/
theorem holds_succeeds {field : Field} {op : CompareOp} {value : Value}
    (hv : value.Fits field op) : Succeeds (c.holds field op value) := by
  unfold holds
  split
  · exact matchText_succeeds .ne hv h.name
  · exact h.anyName_succeeds fun j hj => matchText_succeeds _ hv hj
  · exact matchText_succeeds .ne hv h.oracleText
  · exact h.anyOracleText_succeeds fun j hj => matchText_succeeds _ hv hj
  split
  · exact matchStar_succeeds op h.printed_isText
  rename_i hstar
  cases hk : field.kind <;> simp only [Value.Fits, hk] at hv ⊢
  case text => exact matchText_succeeds op hv (h.content_isText (.inl hk))
  case discrete => exact matchDiscrete_succeeds op hv (h.content_isText (.inr (.inl hk)))
  case list => exact matchList_succeeds op hv (h.content_isTexts hk)
  case color => exact matchColor_succeeds field op _ hv
  case numeric =>
    -- the star of a stat was dealt with before the kinds were told apart
    rcases hv with ⟨x, rfl⟩ | ⟨rfl, hstat, -⟩
    · exact matchNumeric_succeeds op x (h.content_isNumber hk)
    · exact absurd rfl (hstar "*" hstat)
  case date =>
    obtain ⟨w, -, rfl, -⟩ := hv
    exact matchDate_succeeds op w (h.content_isDate hk)
  case rarity =>
    obtain ⟨r, rfl⟩ := hv
    exact matchRarity_succeeds op r (h.content_isText (.inr (.inr hk)))
  case legality =>
    obtain ⟨w, rfl, -⟩ := hv
    exact matchLegality_succeeds field op w (h.content_isTable hk)
  case flag =>
    obtain ⟨w, rfl, -⟩ := hv
    exact matchFlag_succeeds field op w h

/-- **A well-typed query is decided.** -/
theorem matches_succeeds {q : Query} (hq : q.WellTyped) : Succeeds (q.matches c) := by
  induction q with
  | compare field op value => exact h.holds_succeeds hq.2.1
  | term content =>
    obtain ⟨s, rfl⟩ := hq
    exact h.anyName_succeeds fun j hj =>
      (lowered_succeeds hj).map fun name => Text.hasPiece name (Text.lower s)
  | pattern p => exact h.anyName_succeeds fun j hj => search_succeeds p hj
  | and left right ihl ihr => exact (ihl hq.1).ite_bind (ihr hq.2) (succeeds_pure false)
  | or left right ihl ihr => exact (ihl hq.1).ite_bind (succeeds_pure true) (ihr hq.2)
  | not operand ih => exact (ih hq).map (!·)

end Card.WellFormed

namespace Query

/-- **What is read is well typed, and evaluating it ends in no fault**, whatever well-formed card it
is evaluated for. -/
theorem parse_typed_and_decided {text : String} {q : Query} (h : parse text = .ok q) :
    q.WellTyped ∧ ∀ c : Card, c.WellFormed → ∃ b, q.matches c = .ok b :=
  ⟨parse_wellTyped h, fun _ hc => hc.matches_succeeds (parse_wellTyped h)⟩

/-- A query that compares by most kinds, for a card of which only the name is known. -/
theorem mixed_query_decided :
    ∃ q, parse "(c>=wu or pow:*) -is:Commander date<2020-W05 f:MODERN kw!=/fly.*/i" = .ok q
      ∧ q.WellTyped ∧ ∃ b, q.matches (.named (.string "Island")) = .ok b := by
  have hok : (parse "(c>=wu or pow:*) -is:Commander date<2020-W05 f:MODERN kw!=/fly.*/i").toBool
      = true := by decide +kernel
  cases h : parse "(c>=wu or pow:*) -is:Commander date<2020-W05 f:MODERN kw!=/fly.*/i" with
  | error f =>
    rw [h] at hok
    cases hok
  | ok q =>
    obtain ⟨htyped, hdecided⟩ := parse_typed_and_decided h
    exact ⟨q, rfl, htyped, hdecided _ (Card.named_wellFormed "Island")⟩

end Query

end CardQuery

import CardQuery.Proofs.Grammar.Atoms
import CardQuery.Proofs.Outcome
import CardQuery.Proofs.Typing.Evaluation

/-!
# Proofs/Typing/Equality — how `:`, `=` and `!=` go together

* `equality_coherent` — for a comparison that a text writes, with each of the three operators in
  its place, and a card of the declared types: what is equal is found by `:` as well; `!=` is the
  negation of `=`, unless the card lacks what is compared, and then both fail; and for names and
  oracle texts, where the faces of a card count for `=` only, one of the two always holds.

Each way of comparing either opposes the two operators (`Opposes`) or fails under all of them.  What
the field of a comparison is about decides which of the two it is (`Card.Has`).
-/

namespace CardQuery

open Json

/-! ## Tests by operator -/

/-- **A test that opposes `=` and `!=`**, and succeeds for `:` where it does for `=`. -/
def Opposes (test : CompareOp → Except Fault Bool) : Prop :=
  ∃ colon eq : Bool, test .colon = .ok colon ∧ test .eq = .ok eq ∧ test .ne = .ok !eq
    ∧ (eq = true → colon = true)

/-- A test that `!=` turns round, and for which `:` is `=`. -/
theorem opposes_of_bne {test : CompareOp → Except Fault Bool} {b : Bool}
    (h : ∀ op, op.isEquality = true → test op = .ok (b != (op == .ne))) : Opposes test := by
  refine ⟨b, b, ?_, ?_, ?_, id⟩
  · rw [h .colon rfl]
    cases b <;> rfl
  · rw [h .eq rfl]
    cases b <;> rfl
  · rw [h .ne rfl]
    cases b <;> rfl

/-- One test implies another on a value, and both are decided. -/
def Weakens (test test' : Json → Except Fault Bool) (j : Json) : Prop :=
  ∃ b b' : Bool, test j = .ok b ∧ test' j = .ok b' ∧ (b = true → b' = true)

/-- A weaker test succeeds on some of the values where a stronger one does. -/
theorem anyOf_weakens {test test' : Json → Except Fault Bool} {xs : List Json}
    (h : ∀ x ∈ xs, Weakens test test' x) :
    ∃ b b' : Bool, anyOf test xs = .ok b ∧ anyOf test' xs = .ok b' ∧ (b = true → b' = true) := by
  induction xs with
  | nil => exact ⟨false, false, rfl, rfl, id⟩
  | cons x xs ih =>
    obtain ⟨hx, hxs⟩ := List.forall_mem_cons.mp h
    obtain ⟨b, b', hb, hb', himp⟩ := hx
    obtain ⟨r, r', hr, hr', hrest⟩ := ih hxs
    refine ⟨b || r, b' || r', ?_, ?_, ?_⟩
    · rw [anyOf, hb]
      cases b
      · exact hr
      · rfl
    · rw [anyOf, hb']
      cases b'
      · exact hr'
      · rfl
    · rw [Bool.or_eq_true, Bool.or_eq_true]
      exact Or.imp himp hrest

theorem hasPiece_self (s : String) : Text.hasPiece s s = true :=
  Text.isPiece_iff.mpr ⟨[], [], by simp⟩

/-! ## Ways of comparing -/

section Matchers

variable {field : Field} {value : Value} {content : Json}

theorem matchText_opposes (hv : value.IsTextual) (hc : IsText content) :
    Opposes fun op => matchText op value content := by
  obtain ⟨hay, rfl⟩ := hc
  rcases hv with ⟨s, rfl⟩ | ⟨p, rfl⟩
  · refine ⟨_, _, rfl, rfl, rfl, fun heq => ?_⟩
    rw [eq_of_beq heq]
    exact hasPiece_self _
  · exact opposes_of_bne (b := p.matchesIn hay) fun op _ => rfl

/-- For texts out of a range `:` and `=` are the same. -/
theorem matchDiscrete_opposes (hv : value.IsTextual) (hc : IsText content) :
    Opposes fun op => matchDiscrete op value content := by
  obtain ⟨hay, rfl⟩ := hc
  rcases hv with ⟨s, rfl⟩ | ⟨p, rfl⟩
  · exact ⟨_, _, rfl, rfl, rfl, id⟩
  · refine opposes_of_bne (b := p.matchesIn hay) fun op hop => ?_
    cases op with
    | colon | eq | ne => rfl
    | _ => cases hop

theorem matchList_opposes (hv : value.IsTextual) (hc : IsTexts content) :
    Opposes fun op => matchList op value content := by
  obtain ⟨xs, hxs, htexts⟩ := hc.orElse.items
  rcases hv with ⟨s, rfl⟩ | ⟨p, rfl⟩
  · have hitem : ∀ x ∈ xs, Weakens (fun item => do return (← Card.lowered item) == Text.lower s)
        (fun item => do return Text.hasPiece (← Card.lowered item) (Text.lower s)) x := by
      intro x hx
      obtain ⟨item, rfl⟩ := htexts x hx
      refine ⟨_, _, rfl, rfl, fun heq => ?_⟩
      rw [eq_of_beq heq]
      exact hasPiece_self _
    obtain ⟨whole, piece, hwhole, hpiece, himp⟩ := anyOf_weakens hitem
    have hmatch (op : CompareOp) : matchList op (.text (.string s)) content
        = do return (← anyOf (fun item => do
            let hay ← Card.lowered item
            return if op = .colon then Text.hasPiece hay (Text.lower s) else hay == Text.lower s) xs)
              != (op == .ne) := by
      unfold matchList
      dsimp only
      rw [hxs]
      rfl
    refine ⟨piece, whole, (hmatch .colon).trans ?_, (hmatch .eq).trans ?_,
      (hmatch .ne).trans ?_, himp⟩
    · simp only [if_true, hpiece]
      cases piece <;> rfl
    · simp only [reduceCtorEq, if_false, hwhole]
      cases whole <;> rfl
    · simp only [reduceCtorEq, if_false, hwhole]
      cases whole <;> rfl
  · obtain ⟨b, hb⟩ := anyOf_succeeds fun x hx => search_succeeds p (htexts x hx)
    refine opposes_of_bne (b := b) fun op _ => ?_
    unfold matchList
    dsimp only
    rw [hxs, ok_bind, hb]
    rfl

theorem holds_opposes (a : Json) (b : Option Json) : Opposes fun op => op.holds a b :=
  ⟨_, _, rfl, rfl, rfl, id⟩

theorem subset_self (set : ColorSet) : set.subset set = true := by
  refine List.all_eq_true.mpr fun c _ => ?_
  cases set.contains c <;> rfl

theorem matchColor_opposes {colors : Option ColorSet}
    (hv : (∃ x, value = .number x) ∨ ∃ set, value = .colors set)
    (hcolors : field = .produces → colors.isSome = true) :
    Opposes fun op => matchColor field op value colors := by
  have hpresent : ¬ (colors.isNone && field = .produces) = true := by
    intro hnone
    obtain ⟨hnone, hfield⟩ := Bool.and_eq_true_iff.mp hnone
    have hsome := hcolors (of_decide_eq_true hfield)
    rw [Option.isSome_iff_ne_none] at hsome
    exact hsome (Option.isNone_iff_eq_none.mp hnone)
  simp only [matchColor, if_neg hpresent]
  rcases hv with ⟨x, rfl⟩ | ⟨set, rfl⟩
  · exact holds_opposes _ _
  · generalize colors.getD .empty = own
    refine ⟨_, _, rfl, rfl, ?_, fun heq => ?_⟩
    · simp [ColorSet.compare]
    · obtain rfl : own = set := by simpa [ColorSet.compare] using heq
      exact subset_self own

theorem matchNumeric_opposes (hc : content ≠ .null) :
    Opposes fun op => matchNumeric op value content := by
  cases content with
  | null => exact absurd rfl hc
  | _ => exact holds_opposes _ _

theorem matchStar_opposes (hc : OrNull IsText content) (hnull : content ≠ .null) :
    Opposes fun op => matchStar op content := by
  rcases hc with rfl | ⟨s, rfl⟩
  · exact absurd rfl hnull
  · exact opposes_of_bne fun op _ => rfl

theorem matchDate_opposes (hc : content.isTruthy = true) :
    Opposes fun op => matchDate op value content := by
  simp only [matchDate, if_pos hc]
  exact holds_opposes _ _

/-- The rarity of a card is that of its text, if there is one. -/
theorem matchRarity_string (op : CompareOp) (r : Rarity) (s : String) :
    matchRarity op (.keyword r.name) (.string s) = .ok (match Rarity.ofName? (Text.lower s) with
      | none => false
      | some own => op.admits (some (compare own.rank r.rank))) := by
  have hself : Card.lowered ((Json.string s).orElse (.string "")) = .ok (Text.lower s) := by
    by_cases hs : s = ""
    · rw [hs]
      rfl
    · rw [Json.orElse, if_pos (by simpa [Json.isTruthy] using hs)]
      rfl
  rw [matchRarity, hself, ok_bind]
  cases Rarity.ofName? (Text.lower s) with
  | none => rfl
  | some own =>
    dsimp only
    rw [rankOf_name]
    rfl

theorem matchLegality_opposes (w : String) (hc : IsTable content) :
    Opposes fun op => matchLegality field op (.keyword w) content := by
  obtain ⟨status, hstatus, htype⟩ := statusOf_eq_ok w hc
  have hkey : status.isKey = true := by
    rcases htype with rfl | ⟨s, rfl⟩ <;> rfl
  refine opposes_of_bne (b := field.statuses.any fun s => status.same (.string s)) fun op _ => ?_
  rw [matchLegality, hstatus, ok_bind, hkey]
  rfl

theorem matchFlag_opposes (w : String) {c : Card} (h : c.WellFormed) :
    Opposes fun op => matchFlag field op (.keyword w) c := by
  obtain ⟨found, hfound⟩ := h.hasFlag_succeeds w
  refine opposes_of_bne (b := found != (field == .not)) fun op _ => ?_
  rw [matchFlag]
  dsimp only [Value.content?]
  rw [hfound]
  rfl

end Matchers

/-! ## Names and texts of faces -/

section Faces

variable {own faces : Json} {value : Value}

theorem anyFace_eq_anyOf {xs : List Json} (hxs : faces.items = .ok xs)
    (test : Json → Except Fault Bool) : Card.anyFace own faces test = anyOf test (own :: xs) := by
  rw [Card.anyFace, hxs]
  rfl

/-- The faces count besides the card for `:` and `=` but not for `!=`. -/
theorem anyFace_coherent (hv : value.IsTextual) (hown : IsText own) (hfaces : IsTexts faces) :
    ∃ colon eq ne : Bool, Card.anyFace own faces (matchText .colon value) = .ok colon
      ∧ Card.anyFace own faces (matchText .eq value) = .ok eq ∧ matchText .ne value own = .ok ne
      ∧ (eq = true → colon = true) ∧ (eq = true ∨ ne = true) := by
  obtain ⟨xs, hxs, htexts⟩ := hfaces.items
  have hall : ∀ x ∈ own :: xs, IsText x := List.forall_mem_cons.mpr ⟨hown, htexts⟩
  have hweakens : ∀ x ∈ own :: xs, Weakens (matchText .eq value) (matchText .colon value) x := by
    intro x hx
    obtain ⟨colon, eq, hcolon, heq, -, himp⟩ := matchText_opposes hv (hall x hx)
    exact ⟨eq, colon, heq, hcolon, himp⟩
  obtain ⟨eq, colon, heq, hcolon, himp⟩ := anyOf_weakens hweakens
  obtain ⟨-, ownEq, -, hownEq, hownNe, -⟩ := matchText_opposes hv hown
  dsimp only at hownEq
  refine ⟨colon, eq, !ownEq, ?_, ?_, hownNe, himp, ?_⟩
  · rw [anyFace_eq_anyOf hxs, hcolon]
  · rw [anyFace_eq_anyOf hxs, heq]
  · cases hb : ownEq with
    | false => exact .inr rfl
    | true =>
      -- the card itself settles it, before any of its faces
      rw [anyOf, hownEq, hb] at heq
      exact .inl (Except.ok.inj heq).symm

end Faces

/-! ## Comparisons -/

/-- Whether a card may lack what a field is about. -/
def Field.mayLack (f : Field) : Bool :=
  match f.kind with
  | .numeric | .date | .rarity => true
  | _ => f == .produces

/-- **Whether a card has what a comparison is about.** -/
def Card.Has (c : Card) (field : Field) (value : Value) : Prop :=
  match field.kind with
  | .numeric =>
    match value with
    | .keyword _ => c.printed field ≠ .null
    | _ => c.content field ≠ .null
  | .date => ∃ s, c.releasedAt = .string s ∧ s ≠ ""
  | .rarity => ∃ s r, c.rarity = .string s ∧ Rarity.ofName? (Text.lower s) = some r
  | _ => field = .produces → c.producedMana.isSome = true

namespace Card

theorem has_of_mayLack_eq_false (c : Card) {field : Field} (value : Value)
    (h : field.mayLack = false) : c.Has field value := by
  have hne : field ≠ .produces := by
    rintro rfl
    cases h
  cases field <;> first | exact fun hn => absurd hn hne | cases h

namespace WellFormed

variable {c : Card} (h : c.WellFormed) {field : Field} {op : CompareOp} {value : Value}
include h

/-- **A comparison with what a card has opposes `=` and `!=`.** -/
theorem holds_opposes (hv : value.Fits field op) (hname : field ≠ .name) (horacle : field ≠ .oracle)
    (hhas : c.Has field value) : Opposes fun op => c.holds field op value := by
  cases field with
  | name => exact absurd rfl hname
  | oracle => exact absurd rfl horacle
  | type | mana | artist => exact matchText_opposes hv (h.content_isText (.inl rfl))
  | set | number | layout | lang =>
    exact matchDiscrete_opposes hv (h.content_isText (.inr (.inl rfl)))
  | keyword | game => exact matchList_opposes hv (h.content_isTexts rfl)
  | color | identity => exact matchColor_opposes hv nofun
  | produces => exact matchColor_opposes hv hhas
  | manaValue | year | power | toughness | loyalty | defense =>
    rcases hv with ⟨x, rfl⟩ | ⟨rfl, hstat, -⟩
    · exact matchNumeric_opposes hhas
    · first
        | exact matchStar_opposes h.printed_isText hhas
        | cases hstat
  | date =>
    obtain ⟨s, hs, hne⟩ := hhas
    have htruthy : c.releasedAt.isTruthy = true := by
      rw [hs]
      simpa [Json.isTruthy] using hne
    obtain ⟨w, -, rfl, -⟩ := hv
    exact matchDate_opposes htruthy
  | rarity =>
    obtain ⟨s, own, hs, hown⟩ := hhas
    obtain ⟨r, rfl⟩ := hv
    have hmatch (op : CompareOp) : c.holds .rarity op (.keyword r.name)
        = .ok (op.admits (some (compare own.rank r.rank))) := by
      change matchRarity op (.keyword r.name) c.rarity = _
      rw [hs, matchRarity_string, hown]
    exact ⟨_, _, hmatch .colon, hmatch .eq, hmatch .ne, id⟩
  | format | banned | restricted =>
    obtain ⟨w, rfl, -⟩ := hv
    exact matchLegality_opposes w (h.content_isTable rfl)
  | is | not =>
    obtain ⟨w, rfl, -⟩ := hv
    exact matchFlag_opposes w h

/-- **No comparison holds with what a card lacks.** -/
theorem holds_of_lacking (hv : value.Fits field op) (hlacks : ¬ c.Has field value)
    (op : CompareOp) : c.holds field op value = .ok false := by
  cases field with
  | produces =>
    have hnone : c.producedMana = none := by
      by_contra hsome
      exact hlacks fun _ => Option.isSome_iff_ne_none.mpr hsome
    change matchColor .produces op value c.producedMana = _
    rw [hnone]
    rfl
  | manaValue | year | power | toughness | loyalty | defense =>
    rcases hv with ⟨x, rfl⟩ | ⟨rfl, hstat, -⟩
    · change matchNumeric op (.number x) (c.content _) = _
      rw [Classical.not_not.mp hlacks]
      rfl
    · first
        | change matchStar op (c.printed _) = _
          rw [Classical.not_not.mp hlacks]
          rfl
        | cases hstat
  | date =>
    have hempty : c.releasedAt.isTruthy = false := by
      rcases h.releasedAt with hnull | ⟨s, hs⟩
      · rw [hnull]
        rfl
      · rw [hs]
        by_contra htruthy
        exact hlacks ⟨s, hs, by simpa [Json.isTruthy] using htruthy⟩
    obtain ⟨w, -, rfl, -⟩ := hv
    change matchDate op (.keyword w) c.releasedAt = _
    rw [matchDate, hempty]
    rfl
  | rarity =>
    obtain ⟨s, hs⟩ := h.rarity
    obtain ⟨r, rfl⟩ := hv
    have hunknown : Rarity.ofName? (Text.lower s) = none :=
      Option.eq_none_iff_forall_not_mem.mpr fun own hown => hlacks ⟨s, own, hs, hown⟩
    change matchRarity op (.keyword r.name) c.rarity = _
    rw [hs, matchRarity_string, hunknown]
  | _ => exact absurd (c.has_of_mayLack_eq_false value rfl) hlacks

end WellFormed

end Card

/-! ## Queries -/

namespace Query

/-- A query is well typed if each of its leaves is. -/
theorem WellTyped.leaf {q leaf : Query} (hq : q.WellTyped) (h : leaf ∈ q.leaves) :
    leaf.WellTyped := by
  induction q with
  | and left right ihl ihr | or left right ihl ihr =>
    rcases List.mem_append.mp h with h | h
    · exact ihl hq.1 h
    · exact ihr hq.2 h
  | not operand ih => exact ih hq h
  | compare | term | pattern =>
    obtain rfl := List.mem_singleton.mp h
    exact hq

/-- **How `:`, `=` and `!=` go together.**  Take a comparison of a text with each of them for its
operator.  A card that is found by `=` is found by `:`.  For every field but the names and oracle
texts, `!=` is the negation of `=` if a card has what the field is about, which it may lack for some
fields only, and then both fail.  For names and oracle texts one of the two holds. -/
theorem equality_coherent {text : String} {q : Query} {field : Field} {op : CompareOp}
    {value : Value} {c : Card} (h : parse text = .ok q) (hleaf : .compare field op value ∈ q.leaves)
    (hc : c.WellFormed) :
    ∃ colon eq ne : Bool, (compare field .colon value).matches c = .ok colon
      ∧ (compare field .eq value).matches c = .ok eq
      ∧ (compare field .ne value).matches c = .ok ne
      ∧ (eq = true → colon = true)
      ∧ (field ∉ [Field.name, .oracle] → field.mayLack = false → ne = !eq)
      ∧ (field.mayLack = true →
        (c.Has field value → ne = !eq) ∧ (¬ c.Has field value → eq = false ∧ ne = false))
      ∧ (field ∈ [Field.name, .oracle] → eq = true ∨ ne = true) := by
  obtain ⟨-, hfits, -⟩ := (parse_wellTyped h).leaf hleaf
  by_cases hfaces : field ∈ [Field.name, .oracle]
  · have hcases : field = .name ∨ field = .oracle := by simpa using hfaces
    obtain ⟨colon, eq, ne, hcolon, heq, hne, himp, hor⟩ : ∃ colon eq ne : Bool,
        c.holds field .colon value = .ok colon ∧ c.holds field .eq value = .ok eq
          ∧ c.holds field .ne value = .ok ne ∧ (eq = true → colon = true)
          ∧ (eq = true ∨ ne = true) := by
      rcases hcases with rfl | rfl
      · exact anyFace_coherent hfits hc.name hc.faceNames
      · exact anyFace_coherent hfits hc.oracleText hc.faceOracleTexts
    have hhas : field.mayLack = false := by
      rcases hcases with rfl | rfl
      · rfl
      · rfl
    exact ⟨colon, eq, ne, hcolon, heq, hne, himp, fun hn => absurd hfaces hn,
      fun hlacks => absurd hlacks (by rw [hhas]; nofun), fun _ => hor⟩
  · by_cases hhas : c.Has field value
    · obtain ⟨colon, eq, hcolon, heq, hne, himp⟩ := hc.holds_opposes hfits
        (fun hn => hfaces (by simp [hn])) (fun hn => hfaces (by simp [hn])) hhas
      exact ⟨colon, eq, !eq, hcolon, heq, hne, himp, fun _ _ => rfl,
        fun _ => ⟨fun _ => rfl, fun hn => absurd hhas hn⟩, fun hn => absurd hn hfaces⟩
    · have hsilent := hc.holds_of_lacking hfits hhas
      refine ⟨false, false, false, hsilent .colon, hsilent .eq, hsilent .ne, id, ?_,
        fun _ => ⟨fun hn => absurd hn hhas, fun _ => ⟨rfl, rfl⟩⟩, fun hn => absurd hn hfaces⟩
      exact fun _ hlacks => absurd (c.has_of_mayLack_eq_false value hlacks) hhas

/-- The query for cards with a star for their power. -/
theorem parse_starPower : parse "pow:*" = .ok (compare .power .colon (.keyword "*")) := by
  have htokens : (tokenize "pow:*").toOption
      = some [⟨.comparison "pow" .colon, "pow:", 0, 4⟩, ⟨.word, "*", 4, 5⟩] := by
    decide +kernel
  have hcompares : Grammar.Compares ⟨.comparison "pow" .colon, "pow:", 0, 4⟩ ⟨.word, "*", 4, 5⟩
      .power .colon (.keyword "*") :=
    { named := ⟨"pow", rfl, rfl⟩, admitted := by decide, isValue := rfl, adjacent := rfl
      typed := rfl }
  exact Grammar.parse_of_compares htokens hcompares fun hcolor => absurd hcolor.1 (by decide)

/-- A card with a power that varies either equals the star or does not, and a land does neither. -/
theorem starPower_coherent :
    let giant := { Card.named (.string "Maro") with powerText := .string "*" }
    let land := Card.named (.string "Island")
    (∃ eq, (compare .power .eq (.keyword "*")).matches giant = .ok eq
        ∧ (compare .power .ne (.keyword "*")).matches giant = .ok !eq)
      ∧ (compare .power .eq (.keyword "*")).matches land = .ok false
      ∧ (compare .power .ne (.keyword "*")).matches land = .ok false := by
  intro giant land
  have hgiant : giant.WellFormed :=
    { Card.named_wellFormed "Maro" with powerText := .inr (isText_string "*") }
  have hhas : giant.Has .power (.keyword "*") := nofun
  have hlacks : ¬ land.Has .power (.keyword "*") := fun hn => hn rfl
  obtain ⟨-, eq, ne, -, heq, hne, -, -, hoptional, -⟩ :=
    equality_coherent parse_starPower List.mem_cons_self hgiant
  obtain ⟨-, eq', ne', -, heq', hne', -, -, hoptional', -⟩ :=
    equality_coherent parse_starPower List.mem_cons_self (Card.named_wellFormed "Island")
  obtain ⟨rfl, rfl⟩ := (hoptional' rfl).2 hlacks
  obtain rfl := (hoptional rfl).1 hhas
  exact ⟨⟨eq, heq, hne⟩, heq', hne'⟩

end Query

end CardQuery

import CardQuery.Proofs.Outcome
import CardQuery.Proofs.Typing.Evaluation

/-!
# Proofs/Searching/Texts — the texts that a search looks at

A comparison by `:` or `=` with a field of texts looks at the texts of the card one by one
(`Card.texts`): the names of the card and its faces, its oracle text and those of its faces, or what
the field holds.

* `Card.holds_name_eq`, `Card.holds_oracle_eq`, `Card.holds_single_eq`, `Card.holds_list_eq` — such
  a comparison holds if one of the texts is as the value asks (`Value.meets`).
* `Card.WellFormed.holds_eq` — all of these, for a card whose parts have the declared types.
* `Query.matches_term_eq`, `Query.matches_pattern_eq` — a bare text or pattern is looked for in the
  names.
-/

namespace CardQuery

open Json

/-! ## Texts -/

/-- The text that a value is. -/
def Json.string? : Json → Option String
  | .string s => some s
  | _ => none

/-- The texts that a value holds: itself or its items. -/
def Json.texts : Json → List String
  | .array xs => xs.filterMap string?
  | j => j.string?.toList

/-- **The texts of a card that a field is about.** -/
def Card.texts (c : Card) : Field → List String
  | .name => c.name.texts ++ c.faceNames.texts
  | .oracle => c.oracleText.texts ++ c.faceOracleTexts.texts
  | field => (c.content field).texts

/-- **Whether a text is as a value asks**: a text is looked for in it by `:` and compared with it by
`=`, in any case, and a pattern is searched for in it by both. -/
def Value.meets (op : CompareOp) : Value → String → Bool
  | .text (.string s), t =>
    if op = .colon then Text.hasPiece (Text.lower t) (Text.lower s) else Text.lower t == Text.lower s
  | .pattern p, t => p.matchesIn t
  | _, _ => false

/-! ## Tests on texts -/

section Tests

variable {test : Json → Except Fault Bool} {f : String → Bool} {own faces : Json} {xs : List Json}

/-- What decides all texts decides an item of a list of texts. -/
theorem decides_string (h : ∀ s, test (.string s) = .ok (f s)) {j : Json} (hj : IsText j) :
    test j = .ok (j.string?.any f) := by
  obtain ⟨s, rfl⟩ := hj
  exact h s

/-- It decides a text by itself, too. -/
theorem decides_texts (h : ∀ s, test (.string s) = .ok (f s)) {j : Json} (hj : IsText j) :
    test j = .ok (j.texts.any f) := by
  obtain ⟨s, rfl⟩ := hj
  have hone : (Json.string s).texts.any f = f s := Bool.or_false (f s)
  rw [hone, h]

/-- A test on one of several values looks for a text with a property, if that is how it decides each
of the values. -/
theorem anyOf_eq (h : ∀ x ∈ xs, test x = .ok (x.string?.any f)) :
    anyOf test xs = .ok ((xs.filterMap string?).any f) := by
  induction xs with
  | nil => rfl
  | cons x xs ih =>
    obtain ⟨hx, hxs⟩ := List.forall_mem_cons.mp h
    rw [anyOf, hx, ih hxs, ok_bind, List.filterMap_cons]
    cases x.string? with
    | none => rfl
    | some s =>
      rw [List.any_cons, Option.any_some]
      cases f s <;> rfl

theorem anyFace_eq (hown : test own = .ok (own.texts.any f))
    (hfaces : ∀ x ∈ xs, test x = .ok (x.string?.any f)) :
    Card.anyFace own (.array xs) test = .ok ((own.texts ++ (Json.array xs).texts).any f) := by
  have hitems : (Json.array xs).items = .ok xs := rfl
  rw [Card.anyFace, hown, ok_bind, hitems, ok_bind, anyOf_eq hfaces, List.any_append]
  cases own.texts.any f <;> rfl

/-- What decides texts decides a text and those of a list. -/
theorem anyFace_texts_eq (h : ∀ s, test (.string s) = .ok (f s)) (hown : IsText own)
    (hfaces : IsTexts faces) :
    Card.anyFace own faces test = .ok ((own.texts ++ faces.texts).any f) := by
  obtain ⟨xs, rfl, htexts⟩ := hfaces
  exact anyFace_eq (decides_texts h hown) fun x hx => decides_string h (htexts x hx)

end Tests

/-! ## Comparisons -/

section Comparisons

variable {c : Card} {field : Field} {op : CompareOp} {value : Value}

theorem matchText_string (hv : value.IsTextual) (hop : op = .colon ∨ op = .eq) (t : String) :
    matchText op value (.string t) = .ok (value.meets op t) := by
  rcases hv with ⟨s, rfl⟩ | ⟨p, rfl⟩
  · rcases hop with rfl | rfl <;> rfl
  · rcases hop with rfl | rfl <;> exact congrArg Except.ok (Bool.xor_false _)

theorem matchText_null (hv : value.IsTextual) (hop : op = .colon ∨ op = .eq) :
    matchText op value .null = .ok false := by
  rcases hv with ⟨s, rfl⟩ | ⟨p, rfl⟩ <;> rcases hop with rfl | rfl <;> rfl

namespace Card

theorem holds_name_eq (hname : IsText c.name) (hfaces : IsTexts c.faceNames) (hv : value.IsTextual)
    (hop : op = .colon ∨ op = .eq) :
    c.holds .name op value = .ok ((c.texts .name).any (value.meets op)) := by
  have hany : c.holds .name op value = c.anyName (matchText op value) := by
    rcases hop with rfl | rfl <;> rfl
  rw [hany]
  exact anyFace_texts_eq (matchText_string hv hop) hname hfaces

/-- A face without an oracle text has none that could be found. -/
theorem holds_oracle_eq (hown : IsText c.oracleText)
    (hfaces : ∃ xs, c.faceOracleTexts = .array xs ∧ ∀ x ∈ xs, OrNull IsText x)
    (hv : value.IsTextual) (hop : op = .colon ∨ op = .eq) :
    c.holds .oracle op value = .ok ((c.texts .oracle).any (value.meets op)) := by
  have hany : c.holds .oracle op value
      = anyFace c.oracleText c.faceOracleTexts (matchText op value) := by
    rcases hop with rfl | rfl <;> rfl
  obtain ⟨xs, hxs, htexts⟩ := hfaces
  rw [hany, texts, hxs]
  refine anyFace_eq (decides_texts (matchText_string hv hop) hown) fun x hx => ?_
  rcases htexts x hx with rfl | htext
  · exact matchText_null hv hop
  · exact decides_string (matchText_string hv hop) htext

/-- The other fields of free text hold one text each. -/
theorem holds_single_eq (hfield : field = .type ∨ field = .mana ∨ field = .artist)
    (htext : IsText (c.content field)) (hv : value.IsTextual) (hop : op = .colon ∨ op = .eq) :
    c.holds field op value = .ok ((c.texts field).any (value.meets op)) := by
  have hmatch : c.holds field op value = matchText op value (c.content field) := by
    rcases hfield with rfl | rfl | rfl <;> rfl
  have htexts : c.texts field = (c.content field).texts := by
    rcases hfield with rfl | rfl | rfl <;> rfl
  rw [hmatch, htexts]
  exact decides_texts (matchText_string hv hop) htext

theorem holds_list_eq (hk : field.kind = .list) (hitems : IsTexts (c.content field))
    (hv : value.IsTextual) (hop : op = .colon ∨ op = .eq) :
    c.holds field op value = .ok ((c.texts field).any (value.meets op)) := by
  have hmatch : c.holds field op value = matchList op value (c.content field)
      ∧ c.texts field = (c.content field).texts := by
    cases field with
    | keyword | game => exact ⟨rfl, rfl⟩
    | _ => cases hk
  obtain ⟨xs, hxs, htexts⟩ := hitems
  have hlist : ((Json.array xs).orElse (.array [])).items = .ok xs := by
    cases xs <;> rfl
  have hne : (op == .ne) = false := by rcases hop with rfl | rfl <;> rfl
  rw [hmatch.1, hmatch.2, hxs]
  unfold matchList
  rcases hv with ⟨s, rfl⟩ | ⟨p, rfl⟩
  · have hneedle : (Value.text (.string s)).lowered = .ok (Text.lower s) := rfl
    have hany : anyOf (fun item => do
        let hay ← Card.lowered item
        return if op = .colon then Text.hasPiece hay (Text.lower s) else hay == Text.lower s) xs
          = .ok ((xs.filterMap string?).any ((Value.text (.string s)).meets op)) :=
      anyOf_eq fun x hx => by
        obtain ⟨t, rfl⟩ := htexts x hx
        rfl
    dsimp only
    rw [hlist, hneedle, ok_bind, ok_bind, hany, ok_bind, hne]
    exact congrArg Except.ok (Bool.xor_false _)
  · have hany : anyOf p.search xs
        = .ok ((xs.filterMap string?).any ((Value.pattern p).meets op)) :=
      anyOf_eq fun x hx => decides_string (fun _ => rfl) (htexts x hx)
    dsimp only
    rw [hlist, ok_bind, hany, ok_bind, hne]
    exact congrArg Except.ok (Bool.xor_false _)

end Card

theorem Card.WellFormed.holds_eq (h : c.WellFormed) (hk : field.kind = .text ∨ field.kind = .list)
    (hv : value.IsTextual) (hop : op = .colon ∨ op = .eq) :
    c.holds field op value = .ok ((c.texts field).any (value.meets op)) := by
  rcases hk with hk | hk
  · have hcontent := h.content_isText (.inl hk)
    cases field with
    | name => exact holds_name_eq h.name h.faceNames hv hop
    | oracle =>
      obtain ⟨xs, hxs, htexts⟩ := h.faceOracleTexts
      exact holds_oracle_eq h.oracleText ⟨xs, hxs, fun x hx => .inr (htexts x hx)⟩ hv hop
    | type | mana | artist => exact holds_single_eq (by simp) hcontent hv hop
    | _ => cases hk
  · exact holds_list_eq hk (h.content_isTexts hk) hv hop

end Comparisons

/-! ## Bare terms -/

namespace Query

variable {c : Card}

theorem matches_term_eq (hname : IsText c.name) (hfaces : IsTexts c.faceNames) (s : String) :
    (term (.string s)).matches c
      = .ok ((c.texts .name).any ((Value.text (.string s)).meets .colon)) := by
  change Card.anyFace c.name c.faceNames
    (fun name => do return Text.hasPiece (← Card.lowered name) (Text.lower s)) = _
  exact anyFace_texts_eq (fun _ => rfl) hname hfaces

theorem matches_pattern_eq (hname : IsText c.name) (hfaces : IsTexts c.faceNames) (p : Pattern) :
    (pattern p).matches c = .ok ((c.texts .name).any ((Value.pattern p).meets .colon)) := by
  change Card.anyFace c.name c.faceNames p.search = _
  exact anyFace_texts_eq (fun _ => rfl) hname hfaces

end Query

end CardQuery

import CardQuery.Proofs.Lexer.Boundary
import CardQuery.Proofs.Regex.Literal
import CardQuery.Proofs.Searching.Texts

/-!
# Proofs/Searching/Literal — patterns that say no more than a text

* `literal_pattern_agrees` — a pattern of ASCII letters, digits and spaces finds the same cards as
  the text that it consists of, if the texts of the cards are ASCII.

Both look at the same texts (`Card.texts`), so that it is enough to compare them text by text.
-/

namespace CardQuery

/-- A card whose free texts and lists of texts are ASCII. -/
def Card.IsAscii (c : Card) : Prop :=
  ∀ field : Field, field.kind = .text ∨ field.kind = .list →
    ∀ t ∈ c.texts field, ∀ x ∈ t.toList, x.toNat < 0x80

/-- Of a card of which nothing but the name is known, the other texts are empty. -/
theorem Card.named_isAscii {s : String} (h : ∀ x ∈ s.toList, x.toNat < 0x80) :
    (named (.string s)).IsAscii := by
  intro field hk t ht
  have htext : t = s ∨ t = "" := by
    cases field with
    | name => exact .inl (List.mem_singleton.mp ht)
    | type | oracle | mana | artist => exact .inr (List.mem_singleton.mp ht)
    | keyword | game => cases ht
    | _ => simp [Field.kind, Field.info] at hk
  rcases htext with rfl | rfl
  · exact h
  · exact fun x hx => by simp at hx

/-- An ASCII letter, a digit or a space. -/
def IsLiteral (x : Char) : Prop := x.isAlphanum = true ∨ x = ' '

theorem IsLiteral.not_special {x : Char} (h : IsLiteral x) : x ∉ Regex.specials := by
  have hall : Regex.specials.all (fun y => !y.isAlphanum && y != ' ') = true := by decide
  intro hx
  have hx := List.all_eq_true.mp hall x hx
  rcases h with h | rfl
  · rw [h] at hx
    cases hx
  · cases hx

theorem IsLiteral.toNat_lt {x : Char} (h : IsLiteral x) : x.toNat < 0x80 := by
  rcases h with h | rfl
  · refine toNat_lt_of_isNameChar ?_
    rw [isNameChar, h, Bool.true_or]
  · decide

/-- **A pattern of letters, digits and spaces finds the same cards as its text**, both as a bare term
and under each field of texts. -/
theorem literal_pattern_agrees {s flags : String} (hs : ∀ x ∈ s.toList, IsLiteral x)
    (hflags : ∀ x ∈ flags.toList, x ∈ Regex.flagLetters) :
    ∃ p, Pattern.make s flags = .ok p ∧ ∀ c : Card, c.WellFormed → c.IsAscii →
      (∃ b, (Query.pattern p).matches c = .ok b ∧ (Query.term (.string s)).matches c = .ok b)
      ∧ ∀ field : Field, field.kind = .text ∨ field.kind = .list →
          ∃ b, (Query.compare field .colon (.pattern p)).matches c = .ok b
            ∧ (Query.compare field .colon (.text (.string s))).matches c = .ok b := by
  obtain ⟨p, hmake, hprogram⟩ := Pattern.make_literal (fun x hx => (hs x hx).not_special) hflags
  refine ⟨p, hmake, fun c hc hascii => ?_⟩
  have hmeets {field : Field} (hk : field.kind = .text ∨ field.kind = .list) :
      (c.texts field).any ((Value.pattern p).meets .colon)
        = (c.texts field).any ((Value.text (.string s)).meets .colon) := by
    rw [Bool.eq_iff_iff, List.any_eq_true, List.any_eq_true]
    refine exists_congr fun t => and_congr_right fun ht => Bool.eq_iff_iff.mp ?_
    exact Pattern.matchesIn_literal hprogram (fun x hx => (hs x hx).toNat_lt) (hascii field hk t ht)
  refine ⟨⟨_, ?_, Query.matches_term_eq hc.name hc.faceNames s⟩, fun field hk =>
    ⟨_, ?_, hc.holds_eq hk (.inl ⟨s, rfl⟩) (.inl rfl)⟩⟩
  · rw [Query.matches_pattern_eq hc.name hc.faceNames, hmeets (.inl rfl)]
  · rw [← hmeets hk]
    exact hc.holds_eq hk (.inr ⟨p, rfl⟩) (.inl rfl)

/-- Part of a name, in another case and with flags. -/
theorem solRing_found_by_pattern :
    ∃ p, Pattern.make "Sol ring" "gim" = .ok p
      ∧ (Query.pattern p).matches (.named (.string "THE SOL RING 2")) = .ok true := by
  have hliteral : ∀ x ∈ "Sol ring".toList, IsLiteral x := by
    simp [IsLiteral, Char.isAlphanum]
  have hflags : ∀ x ∈ "gim".toList, x ∈ Regex.flagLetters := by simp [Regex.flagLetters]
  have hcard := Card.named_wellFormed "THE SOL RING 2"
  obtain ⟨p, hmake, hagrees⟩ := literal_pattern_agrees hliteral hflags
  obtain ⟨b, hpattern, hterm⟩ := (hagrees _ hcard (Card.named_isAscii (by simp))).1
  have hfound : (Query.term (.string "Sol ring")).matches (.named (.string "THE SOL RING 2"))
      = .ok true := by
    rw [Query.matches_term_eq hcard.name hcard.faceNames]
    exact congrArg Except.ok (by decide +kernel)
  exact ⟨p, hmake, hpattern.trans (hterm.symm.trans hfound)⟩

end CardQuery

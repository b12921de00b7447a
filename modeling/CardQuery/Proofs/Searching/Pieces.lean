import CardQuery.Proofs.Searching.Texts
import CardQuery.Proofs.Text.Context

/-!
# Proofs/Searching/Pieces — pieces of the texts of a card

* `pieces_found` — a card is found by a piece of one of its texts, under the field of that text and
  for a name also as a bare term, if the capital sigmas of the piece end words in the text as they
  do in the piece by itself.  A piece is found in all texts exactly if it leaves no capital sigma
  open.
* `sigma_piece_missed` — in `ΑΣΑ` the sigma ends no word, so that `ΑΣ` is not found there.

The piece and the text are lowered one without the other, and only a capital sigma lowers by what
stands around it.
-/

namespace CardQuery

open Json Text

/-- **A card is found by a text**: under a field, and for the names of the card as a bare term
too. -/
def Card.FoundBy (c : Card) (field : Field) (s : String) : Prop :=
  (Query.compare field .colon (.text (.string s))).matches c = .ok true
    ∧ (field = .name → (Query.term (.string s)).matches c = .ok true)

section Pieces

variable {c : Card} {field : Field} {s t : String}

/-- To be found is for the lower-case form to stand in that of one of the texts. -/
theorem foundBy_iff (h : c.WellFormed) (hk : field.kind = .text ∨ field.kind = .list) :
    c.FoundBy field s ↔ ∃ t ∈ c.texts field, hasPiece (lower t) (lower s) = true := by
  have hcompare : (Query.compare field .colon (.text (.string s))).matches c
      = .ok ((c.texts field).any fun t => hasPiece (lower t) (lower s)) :=
    h.holds_eq hk (.inl ⟨s, rfl⟩) (.inl rfl)
  have hterm : (Query.term (.string s)).matches c
      = .ok ((c.texts .name).any fun t => hasPiece (lower t) (lower s)) :=
    Query.matches_term_eq h.name h.faceNames s
  rw [Card.FoundBy, hcompare, hterm, ← List.any_eq_true, Except.ok.injEq, Except.ok.injEq]
  exact and_iff_left_of_imp fun hany hfield => hfield ▸ hany

/-- **A piece is found where the text keeps its sigmas.** -/
theorem foundBy_of_keeps (h : c.WellFormed) (hk : field.kind = .text ∨ field.kind = .list)
    {before after : List Char} (ht : String.ofList (before ++ s.toList ++ after) ∈ c.texts field)
    (hkeeps : KeepsSigmas before.reverse s.toList after) : c.FoundBy field s := by
  refine (foundBy_iff h hk).mpr ⟨_, ht, ?_⟩
  rw [hasPiece, toList_lower, toList_lower, String.toList_ofList]
  exact isPiece_lower_of_keeps hkeeps

/-- A card of which only the name is known is found by what its name has. -/
theorem named_foundBy_iff : (Card.named (.string t)).FoundBy .name s
    ↔ hasPiece (lower t) (lower s) = true := by
  have htexts : (Card.named (.string t)).texts .name = [t] := rfl
  rw [foundBy_iff (Card.named_wellFormed t) (.inl rfl), htexts]
  simp only [List.mem_singleton, exists_eq_left]

/-- **Cards are found by the pieces of their texts.**  In each place where the text keeps the capital
sigmas of a piece, the piece finds the card; and it finds every card with a text around it exactly
if it leaves no capital sigma open. -/
theorem pieces_found (s : String) :
    (∀ c : Card, c.WellFormed → ∀ field : Field, field.kind = .text ∨ field.kind = .list →
      ∀ before after, String.ofList (before ++ s.toList ++ after) ∈ c.texts field →
        KeepsSigmas before.reverse s.toList after → c.FoundBy field s)
    ∧ ((∀ c : Card, c.WellFormed → ∀ field : Field, field.kind = .text ∨ field.kind = .list →
        ∀ t ∈ c.texts field, hasPiece t s = true → c.FoundBy field s)
      ↔ ¬ LeavesSigmaOpen s.toList) := by
  refine ⟨fun c h field hk before after ht hkeeps => foundBy_of_keeps h hk ht hkeeps, ?_, ?_⟩
  · intro hall
    rw [← isPiece_lower_iff]
    intro before after
    -- the piece would be found in a card of that name
    have hfound := hall _ (Card.named_wellFormed (.ofList (before ++ s.toList ++ after))) .name
      (.inl rfl) _ List.mem_cons_self
      (isPiece_iff.mpr ⟨before, after, String.toList_ofList⟩)
    rwa [named_foundBy_iff, hasPiece, toList_lower, toList_lower, String.toList_ofList] at hfound
  · intro hopen c h field hk t ht hpiece
    obtain ⟨before, after, htext⟩ := isPiece_iff.mp hpiece
    have hmem : String.ofList (before ++ s.toList ++ after) ∈ c.texts field := by
      rwa [← htext, String.ofList_toList]
    exact foundBy_of_keeps h hk hmem (keepsSigmas_of_not_leavesSigmaOpen hopen _ _)

end Pieces

/-- A sigma at the end of a word of a name, and of the piece. -/
theorem last_word_found :
    (Query.term (.string "ΟΔΟΣ")).matches (.named (.string "ΜΙΑ ΟΔΟΣ")) = .ok true := by
  have hkeeps : KeepsSigmas "ΜΙΑ ".toList.reverse "ΟΔΟΣ".toList [] :=
    keepsSigmas_of_uncased _ (by decide +kernel) rfl
  have hfound := (pieces_found "ΟΔΟΣ").1 (.named (.string "ΜΙΑ ΟΔΟΣ")) (Card.named_wellFormed _)
    .name (.inl rfl) "ΜΙΑ ".toList [] (by decide +kernel) hkeeps
  exact hfound.2 rfl

/-- **A piece with a sigma at its end is missed** where a letter follows it, though the pattern of
the same letters is found. -/
theorem sigma_piece_missed :
    hasPiece "ΑΣΑ" "ΑΣ" = true ∧ (Card.named (.string "ΑΣΑ")).WellFormed
      ∧ (Query.term (.string "ΑΣ")).matches (.named (.string "ΑΣΑ")) = .ok false
      ∧ ∃ p, Pattern.make "ΑΣ" "" = .ok p
        ∧ (Query.pattern p).matches (.named (.string "ΑΣΑ")) = .ok true := by
  refine ⟨by decide +kernel, Card.named_wellFormed _, ?_, ?_⟩
  · rw [Query.matches_term_eq ⟨_, rfl⟩ ⟨[], rfl, nofun⟩]
    exact congrArg Except.ok (by decide +kernel)
  · have hfound : (Pattern.make "ΑΣ" "").toOption.map (·.matchesIn "ΑΣΑ") = some true := by
      decide +kernel
    obtain ⟨p, hp, hmatches⟩ := Option.map_eq_some_iff.mp hfound
    refine ⟨p, eq_ok_of_toOption hp, ?_⟩
    rw [Query.matches_pattern_eq ⟨_, rfl⟩ ⟨[], rfl, nofun⟩]
    exact congrArg Except.ok (Bool.or_eq_true_iff.mpr (.inl hmatches))

end CardQuery

import CardQuery.Proofs.Searching.Texts
import CardQuery.Proofs.Text.Context
import CardQuery.Proofs.Typing.Faces

/-!
# Proofs/Searching/Faces — cards are found by their faces

* `faces_searchable` — a card of a record with faces is found by the name, by the oracle text, unless
  the record has something for one that is no text, and, if the record has no type line of its own,
  by every part of the type line of each of its faces.

Type lines are lowered after they were joined.  The separator begins and ends with a blank, so that
no capital sigma sees past it, and the lower-case form of each line stands in that of the joined
lines (`hasPiece_lower_intercalate`).
-/

namespace CardQuery

open Json Text

/-! ## Joined texts -/

section Joined

variable {separator s t u : String} {texts : List String}

/-- A part of a joined list stands between separators or at an end. -/
theorem exists_intercalate_eq {α : Type} (sep : List α) {xs : List (List α)} {x : List α}
    (hx : x ∈ xs) : ∃ before after, sep.intercalate xs = before ++ x ++ after
      ∧ (before = [] ∨ ∃ b, before = b ++ sep) ∧ (after = [] ∨ ∃ a, after = sep ++ a) := by
  induction xs with
  | nil => cases hx
  | cons y ys ih =>
    rcases ys with _ | ⟨z, zs⟩
    · obtain rfl := List.mem_singleton.mp hx
      exact ⟨[], [], by simp, .inl rfl, .inl rfl⟩
    rw [List.intercalate_cons_cons]
    rcases List.mem_cons.mp hx with rfl | hx
    · exact ⟨[], sep ++ sep.intercalate (z :: zs), by simp, .inl rfl, .inr ⟨_, rfl⟩⟩
    · obtain ⟨before, after, heq, hbefore, hafter⟩ := ih hx
      refine ⟨y ++ sep ++ before, after, by rw [heq]; simp, .inr ?_, hafter⟩
      rcases hbefore with rfl | ⟨b, rfl⟩
      · exact ⟨y, List.append_nil _⟩
      · exact ⟨y ++ sep ++ b, (List.append_assoc ..).symm⟩

theorem hasPiece_trans (hs : hasPiece t s = true) (ht : hasPiece u t = true) :
    hasPiece u s = true := by
  obtain ⟨before, after, ht'⟩ := isPiece_iff.mp hs
  obtain ⟨before', after', hu⟩ := isPiece_iff.mp ht
  exact isPiece_iff.mpr ⟨before' ++ before, after ++ after', by rw [hu, ht']; simp⟩

theorem hasPiece_intercalate (ht : t ∈ texts) : hasPiece (separator.intercalate texts) t = true := by
  obtain ⟨before, after, heq, -⟩ :=
    exists_intercalate_eq separator.toList (List.mem_map_of_mem (f := String.toList) ht)
  exact isPiece_iff.mpr ⟨before, after, by rw [String.toList_intercalate, heq]⟩

/-- A blank ends words, so that nothing behind it matters to a capital sigma. -/
theorem startsCased_space (s : List Char) : startsCased (' ' :: s) = false := by
  have hstops : isTransparent ' ' = false := by decide +kernel
  rw [startsCased_cons, hstops, if_neg Bool.false_ne_true]
  decide +kernel

/-- **The lower-case form of a line stands in that of the joined lines.** -/
theorem hasPiece_lower_intercalate (ht : t ∈ texts) :
    hasPiece (lower (" // ".intercalate texts)) (lower t) = true := by
  obtain ⟨before, after, heq, hbefore, hafter⟩ :=
    exists_intercalate_eq " // ".toList (List.mem_map_of_mem (f := String.toList) ht)
  rw [hasPiece, toList_lower, toList_lower, String.toList_intercalate, heq]
  refine isPiece_lower_of_keeps (keepsSigmas_of_uncased _ ?_ ?_)
  · rcases hbefore with rfl | ⟨b, rfl⟩
    · rfl
    · rw [List.reverse_append]
      exact startsCased_space _
  · rcases hafter with rfl | ⟨a, rfl⟩
    · rfl
    · exact startsCased_space _

end Joined

/-! ## Cards with faces -/

section Cards

variable {c : Card} {ms fm : List (String × Json)} {s t : String}

/-- A text is found by itself. -/
theorem any_meets_eq_self {texts : List String} (ht : t ∈ texts) :
    texts.any ((Value.text (.string t)).meets .eq) = true :=
  List.any_eq_true.mpr ⟨t, ht, beq_self_eq_true (lower t)⟩

/-- **A card is found by the names of its faces.** -/
theorem Card.Merges.holds_name (h : c.Merges ms) (hface : .object fm ∈ facesOf ms)
    (hs : member "name" fm = .string s) (hne : s ≠ "") :
    c.holds .name .eq (.text (.string s)) = .ok true := by
  have hfaces : IsTexts c.faceNames := by
    refine ⟨_, h.faceNames, fun x hx => ?_⟩
    obtain ⟨n, -, rfl⟩ := List.mem_map.mp hx
    exact isText_string n
  have hmem : s ∈ c.texts .name := by
    refine List.mem_append_right _ ?_
    rw [h.faceNames]
    refine List.mem_filterMap.mpr ⟨.string s, List.mem_map.mpr ⟨s, ?_, rfl⟩, rfl⟩
    exact List.mem_filterMap.mpr ⟨_, hface, writtenText?_object hs hne⟩
  rw [holds_name_eq h.name hfaces (.inl ⟨s, rfl⟩) (.inr rfl), any_meets_eq_self hmem]

/-- **A card is found by the oracle texts of its faces.** -/
theorem Card.Merges.holds_oracle (h : c.Merges ms) (hms : IsFaced ms) (howns : OwnsText ms)
    (hface : .object fm ∈ facesOf ms) (hs : member "oracle_text" fm = .string s) :
    c.holds .oracle .eq (.text (.string s)) = .ok true := by
  have hfaces : ∀ x ∈ (facesOf ms).map (faceText "oracle_text"), OrNull IsText x := by
    intro x hx
    obtain ⟨face, hface, rfl⟩ := List.mem_map.mp hx
    obtain ⟨fm, rfl, htexts⟩ := hms.facesOf_isSearched face hface
    exact orNull_faceText (htexts "oracle_text" (by decide))
  have hmem : s ∈ c.texts .oracle := by
    refine List.mem_append_right _ ?_
    rw [h.faceOracleTexts]
    exact List.mem_filterMap.mpr ⟨.string s, List.mem_map.mpr ⟨_, hface, faceText_object hs⟩, rfl⟩
  rw [holds_oracle_eq (h.oracleText howns) ⟨_, h.faceOracleTexts, hfaces⟩ (.inl ⟨s, rfl⟩) (.inr rfl),
    any_meets_eq_self hmem]

/-- **A card without a type line of its own is found by those of its faces.** -/
theorem Card.Merges.holds_type (h : c.Merges ms) (hown : (member "type_line" ms).isTruthy = false)
    (hface : .object fm ∈ facesOf ms) (hs : member "type_line" fm = .string s)
    (ht : hasPiece (lower s) (lower t) = true) :
    c.holds .type .colon (.text (.string t)) = .ok true := by
  obtain ⟨lines, hlines, hjoined⟩ := h.joinedLines hown
  have hmem : s ∈ lines := by
    have hline := List.mem_map_of_mem (f := faceText "type_line") hface
    rw [hlines, faceText_object hs] at hline
    obtain ⟨line, hmem, hline⟩ := List.mem_map.mp hline
    cases hline
    exact hmem
  have htext : IsText (c.content .type) := ⟨_, hjoined⟩
  have htexts : c.texts .type = [" // ".intercalate lines] := by
    change c.typeLine.texts = _
    rw [hjoined]
    rfl
  rw [holds_single_eq (.inl rfl) htext (.inl ⟨t, rfl⟩) (.inl rfl), htexts]
  refine congrArg Except.ok (List.any_eq_true.mpr ⟨_, List.mem_singleton_self _, ?_⟩)
  exact hasPiece_trans ht (hasPiece_lower_intercalate hmem)

/-- **Merging faces loses nothing that is searched for.**  A card of a record with faces is found by
the exact name of each of them.  It is found by the exact oracle text of each as well, if what the
record has for an oracle text of its own is none or a text (`OwnsText`): the search looks there
first.  Without an oracle text of its own it has those of all faces, and without a type line of its
own it is found by whatever is found in the type line of a face. -/
theorem faces_searchable (h : IsFaced ms) (hc : Card.ofRecord (.object ms) = .ok c)
    (hface : .object fm ∈ facesOf ms) :
    (∀ name, member "name" fm = .string name → name ≠ "" →
      (Query.compare .name .eq (.text (.string name))).matches c = .ok true)
    ∧ (∀ text, member "oracle_text" fm = .string text → text ≠ "" →
      (OwnsText ms → (Query.compare .oracle .eq (.text (.string text))).matches c = .ok true)
        ∧ ((member "oracle_text" ms).isTruthy = false →
          ∃ all, c.oracleText = .string all ∧ hasPiece all text = true))
    ∧ ((member "type_line" ms).isTruthy = false → ∀ line, member "type_line" fm = .string line →
      ∀ word, hasPiece (lower line) (lower word) = true →
        (Query.compare .type .colon (.text (.string word))).matches c = .ok true) := by
  have hmerges := Card.ofRecord_merges h hc
  refine ⟨fun name hname hne => hmerges.holds_name hface hname hne, fun text htext hne =>
    ⟨fun howns => hmerges.holds_oracle h howns hface htext,
      fun hown => ⟨_, hmerges.joinedTexts hown, ?_⟩⟩,
    fun hown line hline word hword => hmerges.holds_type hown hface hline hword⟩
  exact hasPiece_intercalate (List.mem_filterMap.mpr ⟨_, hface, writtenText?_object htext hne⟩)

end Cards

/-- A face that is in neither text of the card itself, with a capital sigma before a separator. -/
theorem twoFaces_found :
    let road := [("name", Json.string "ΟΔΟΣ"), ("type_line", .string "ΓΗ ΟΔΟΣ"),
      ("oracle_text", .string "Draw a card.")]
    let home := [("name", Json.string "Home"), ("type_line", .string "Land"), ("oracle_text", .null)]
    ∃ c, Card.ofRecord (.object [("name", .string "Both"),
        ("card_faces", .array [.object road, .object home])]) = .ok c
      ∧ (Query.compare .name .eq (.text (.string "ΟΔΟΣ"))).matches c = .ok true
      ∧ (Query.compare .oracle .eq (.text (.string "Draw a card."))).matches c = .ok true
      ∧ (Query.compare .type .colon (.text (.string "οδος"))).matches c = .ok true := by
  intro road home
  have hok : (Card.ofRecord (.object [("name", .string "Both"),
      ("card_faces", .array [.object road, .object home])])).toBool = true := by decide +kernel
  cases hc : Card.ofRecord (.object [("name", .string "Both"),
      ("card_faces", .array [.object road, .object home])]) with
  | error f =>
    rw [hc] at hok
    cases hok
  | ok c =>
    have hroad : ∀ key ∈ searchedTexts, OrNull IsText (member key road) := by
      simp only [searchedTexts, List.forall_mem_cons]
      exact ⟨.inr ⟨_, rfl⟩, .inr ⟨_, rfl⟩, .inr ⟨_, rfl⟩, nofun⟩
    have hhome : ∀ key ∈ searchedTexts, OrNull IsText (member key home) := by
      simp only [searchedTexts, List.forall_mem_cons]
      exact ⟨.inr ⟨_, rfl⟩, .inr ⟨_, rfl⟩, .inl rfl, nofun⟩
    have hfaced : IsFaced [("name", .string "Both"),
        ("card_faces", .array [.object road, .object home])] :=
      { name := isText_string "Both"
        faces := .inr ⟨_, rfl, List.forall_mem_cons.mpr ⟨⟨road, rfl, hroad⟩,
          List.forall_mem_cons.mpr ⟨⟨home, rfl, hhome⟩, nofun⟩⟩⟩ }
    have howns : OwnsText [("name", .string "Both"),
        ("card_faces", .array [.object road, .object home])] := fun h => by cases h
    have hmem : .object road ∈ facesOf [("name", .string "Both"),
        ("card_faces", .array [.object road, .object home])] := List.mem_cons_self
    obtain ⟨hnames, htexts, hlines⟩ := faces_searchable hfaced hc hmem
    refine ⟨c, rfl, hnames _ rfl (by decide), (htexts _ rfl (by decide)).1 howns, ?_⟩
    exact hlines rfl _ rfl _ (by decide +kernel)

end CardQuery

import CardQuery.Proofs.Typing.Record

/-!
# Proofs/Typing/Faces — what a card takes from the faces of its record

* `Card.ofRecord_merges` — a card of a record with faces has the names and oracle texts of its faces
  one by one, and all their oracle texts or type lines joined where the record has none of its own.

The faces may leave out their names, type lines and oracle texts, or write null; whatever else is in
the record, it is enough that it gives a card.
-/

namespace CardQuery

open Json

/-! ## Records with faces -/

/-- The members of a face that are searched for. -/
def searchedTexts : List String := ["name", "type_line", "oracle_text"]

/-- A face whose name, type line and oracle text are texts if they are there. -/
def IsSearchedFace (face : Json) : Prop :=
  ∃ fm, face = .object fm ∧ ∀ key ∈ searchedTexts, OrNull IsText (member key fm)

/-- **A record with faces**: it has a name, and its faces are objects with texts for what is searched
for. -/
structure IsFaced (ms : List (String × Json)) : Prop where
  name : IsText (member "name" ms)
  faces : OrNull (fun j => ∃ fs, j = .array fs ∧ ∀ f ∈ fs, IsSearchedFace f) (member "card_faces" ms)

/-- An oracle text that a record has of its own is a text. -/
def OwnsText (ms : List (String × Json)) : Prop :=
  (member "oracle_text" ms).isTruthy = true → IsText (member "oracle_text" ms)

/-- The text that a face has for a member, unless it is empty. -/
def writtenText? (key : String) : Json → Option String
  | .object fm =>
    match member key fm with
    | .string s => if s = "" then none else some s
    | _ => none
  | _ => none

section Faces

variable {ms fm : List (String × Json)} {face : Json} {faces : List Json} {key s : String}

theorem writtenText?_object (hs : member key fm = .string s) (hne : s ≠ "") :
    writtenText? key (.object fm) = some s := by
  simp only [writtenText?, hs, if_neg hne]

/-- A member of a face is looked at if it counts as true, and then it is a text. -/
theorem ite_isTruthy_eq (h : OrNull IsText (member key fm)) :
    (if (member key fm).isTruthy then some (member key fm) else none)
      = (writtenText? key (.object fm)).map .string := by
  rw [writtenText?]
  rcases h with hnull | ⟨s, hs⟩
  · rw [hnull]
    rfl
  · rw [hs]
    by_cases hne : s = ""
    · rw [hne]
      rfl
    · simp [Json.isTruthy, hne]

theorem faceName?_eq (h : IsSearchedFace face) :
    faceName? face = .ok ((writtenText? "name" face).map .string) := by
  obtain ⟨fm, rfl, htexts⟩ := h
  have hname := htexts "name" (by decide)
  rw [faceName?, get_object, ok_bind, ← ite_isTruthy_eq hname]
  rcases hname with hnull | ⟨s, hs⟩
  · rw [hnull]
    rfl
  · rw [require_of_member hs, hs]
    split <;> rfl

/-- **Only texts are joined.** -/
theorem join_eq_ok_iff {separator : String} {parts : List Json} :
    Json.join separator parts = .ok s
      ↔ ∃ texts, parts = texts.map .string ∧ s = separator.intercalate texts := by
  have hmap {texts : List String} :
      parts.mapM joinedText = .ok texts ↔ parts = texts.map .string := by
    induction parts generalizing texts with
    | nil => exact ⟨fun h => by cases h; rfl, fun h => by rw [List.map_eq_nil_iff.mp h.symm]; rfl⟩
    | cons part parts ih =>
      rw [List.mapM_cons, bind_eq_ok_iff]
      constructor
      · rintro ⟨text, htext, h⟩
        obtain ⟨rest, hrest, h⟩ := bind_eq_ok_iff.mp h
        cases h
        cases part <;> cases htext
        rw [List.map_cons, ih.mp hrest]
      · intro h
        obtain ⟨text, rest, rfl, htext, hrest⟩ := List.map_eq_cons_iff.mp h.symm
        refine ⟨text, by rw [← htext]; rfl, ?_⟩
        rw [ih.mpr hrest.symm]
        rfl
  rw [Json.join, bind_eq_ok_iff]
  constructor
  · rintro ⟨texts, htexts, hs⟩
    exact ⟨texts, hmap.mp htexts, (Except.ok.inj hs).symm⟩
  · rintro ⟨texts, htexts, rfl⟩
    exact ⟨texts, hmap.mpr htexts, rfl⟩

theorem joinedTexts_eq (h : ∀ face ∈ faces, IsSearchedFace face) :
    joinedTexts faces
      = .ok (.string ("\n//\n".intercalate (faces.filterMap (writtenText? "oracle_text")))) := by
  have hone : ∀ face ∈ faces, (do
      let text ← face.get "oracle_text"
      return if text.isTruthy then some text else none : Except Fault (Option Json))
        = .ok ((writtenText? "oracle_text" face).map .string) := by
    intro face hface
    obtain ⟨fm, rfl, htexts⟩ := h face hface
    rw [get_object, ok_bind, ite_isTruthy_eq (htexts "oracle_text" (by decide))]
    rfl
  rw [joinedTexts, filterMapM_eq_filterMap hone, ok_bind, ← List.map_filterMap,
    join_eq_ok_iff.mpr ⟨_, rfl, rfl⟩]
  rfl

end Faces

/-! ## Cards of records with faces -/

/-- **What a card takes from the faces of its record.** -/
structure Card.Merges (c : Card) (ms : List (String × Json)) : Prop where
  name : IsText c.name
  faceNames : c.faceNames = .array (((facesOf ms).filterMap (writtenText? "name")).map .string)
  oracleText : OwnsText ms → IsText c.oracleText
  joinedTexts : (member "oracle_text" ms).isTruthy = false → c.oracleText
    = .string ("\n//\n".intercalate ((facesOf ms).filterMap (writtenText? "oracle_text")))
  faceOracleTexts : c.faceOracleTexts = .array ((facesOf ms).map (faceText "oracle_text"))
  joinedLines : (member "type_line" ms).isTruthy = false → ∃ lines,
    (facesOf ms).map (faceText "type_line") = lines.map .string
      ∧ c.typeLine = .string (" // ".intercalate lines)

section Cards

variable {ms : List (String × Json)} {c : Card}

theorem IsFaced.facesOf_isSearched (h : IsFaced ms) : ∀ face ∈ facesOf ms, IsSearchedFace face :=
  (faces_eq_facesOf h.faces).2

theorem IsFaced.mapM_faceText (h : IsFaced ms) (key : String) :
    (facesOf ms).mapM (·.getOr key (.string "")) = .ok ((facesOf ms).map (faceText key)) :=
  CardQuery.mapM_faceText
    (fun face hface => (h.facesOf_isSearched face hface).imp fun _ => And.left) key

/-- The oracle text of a card is its own, or else those of its faces. -/
theorem ownOrJoinedTexts_eq (h : IsFaced ms) {oracle : Json}
    (horacle : ownOrJoinedTexts (member "oracle_text" ms) (facesOf ms) = .ok oracle) :
    (OwnsText ms → IsText (oracle.orElse (.string "")))
      ∧ ((member "oracle_text" ms).isTruthy = false → oracle.orElse (.string "")
        = .string ("\n//\n".intercalate ((facesOf ms).filterMap (writtenText? "oracle_text")))) := by
  have hself (s : String) : (Json.string s).orElse (.string "") = .string s := by
    rw [Json.orElse]
    split
    · rfl
    · rename_i hempty
      have hs : s = "" := by simpa [Json.isTruthy] using hempty
      rw [hs]
  rw [ownOrJoinedTexts] at horacle
  cases hown : (member "oracle_text" ms).isTruthy with
  | true =>
    rw [hown] at horacle
    cases horacle
    exact ⟨fun h => (h hown).orElse "", nofun⟩
  | false =>
    have hjoined : oracle.orElse (.string "")
        = .string ("\n//\n".intercalate ((facesOf ms).filterMap (writtenText? "oracle_text"))) := by
      rw [hown] at horacle
      cases hfaces : facesOf ms with
      | nil =>
        rw [hfaces] at horacle
        cases horacle
        rw [Json.orElse, hown]
        rfl
      | cons face faces =>
        rw [hfaces] at horacle
        have hsearched := h.facesOf_isSearched
        rw [hfaces] at hsearched
        cases horacle.symm.trans (joinedTexts_eq hsearched)
        exact hself _
    rw [hjoined]
    exact ⟨fun _ => isText_string _, fun _ => rfl⟩

/-- The type line of a card is its own, or else those of its faces. -/
theorem ownOrJoinedLines_eq (h : IsFaced ms) {line : Json}
    (hline : ownOrJoinedLines (member "type_line" ms) (facesOf ms) = .ok line)
    (hown : (member "type_line" ms).isTruthy = false) :
    ∃ lines, (facesOf ms).map (faceText "type_line") = lines.map .string
      ∧ line = .string (" // ".intercalate lines) := by
  rw [ownOrJoinedLines, hown, if_neg Bool.false_ne_true,
    h.mapM_faceText "type_line", ok_bind, bind_eq_ok_iff] at hline
  obtain ⟨joined, hjoined, hline⟩ := hline
  obtain ⟨lines, hlines, rfl⟩ := join_eq_ok_iff.mp hjoined
  exact ⟨lines, hlines, (Except.ok.inj hline).symm⟩

/-- **A card has what the faces of its record have.** -/
theorem Card.ofRecord_merges (h : IsFaced ms) (hc : ofRecord (.object ms) = .ok c) :
    c.Merges ms := by
  obtain ⟨hitems, hfaces⟩ := faces_eq_facesOf h.faces
  unfold ofRecord at hc
  simp only [bind_eq_ok_iff, get_object, ok_bind, hitems] at hc
  obtain ⟨front, -, faces, hfs, oracle, horacle, colors, -, name, hname, line, hline, cost, -,
    artist, -, names, hnames, lines, -, texts, htexts, keywords, -, games, -, finishes, -, hc⟩ := hc
  obtain ⟨colors, -, identity, -, produced, -, value, -, power, -, toughness, -, loyalty, -,
    defense, -, year, -, rarity, -, set, -, legalities, -, hc⟩ := hc
  obtain ⟨reserved, -, reprint, -, promo, -, full, -, digital, -, hc⟩ := hc
  cases hfs
  obtain ⟨horacleText, hjoined⟩ := ownOrJoinedTexts_eq h horacle
  have hfaceNames := filterMapM_eq_filterMap fun face hface => faceName?_eq (hfaces face hface)
  rw [← List.map_filterMap] at hfaceNames
  cases hc
  exact {
    name := by
      obtain ⟨s, hs⟩ := h.name
      cases hname.symm.trans (require_of_member hs)
      exact isText_string s
    faceNames := by
      cases hnames.symm.trans hfaceNames
      rfl
    oracleText := horacleText
    joinedTexts := hjoined
    faceOracleTexts := by
      cases htexts.symm.trans (h.mapM_faceText "oracle_text")
      rfl
    joinedLines := ownOrJoinedLines_eq h hline }

end Cards

end CardQuery

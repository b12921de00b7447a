import CardQuery.Proofs.Number.Notation
import CardQuery.Proofs.Typing.Record

/-!
# Proofs/Typing/Printed — printed stats and their numbers

* `Card.ofRecord_stats` — the number and the printed text of a stat are made of one value of the
  record, its own or else that of its front face.
* `Card.stats_go_together` — so a stat without a text has no number, a text with a star has the
  number zero and is found by its star, and a text without one has a number if there is a digit in
  it.

A stat may be given by any value that `statOf` takes, a whole number or a list with a star in it as
well as a text, but only texts and collections are shown with a star.
-/

namespace CardQuery

open Json

/-! ## What a record gives -/

/-- The members of the front face of a record. -/
def frontMembers (ms : List (String × Json)) : List (String × Json) :=
  match facesOf ms with
  | .object fm :: _ => fm
  | _ => []

/-- What a record gives for a member: its own value, or else that of its front face. -/
def given (key : String) (ms : List (String × Json)) : Json :=
  match member key ms with
  | .null => member key (frontMembers ms)
  | j => j

section Given

variable {ms : List (String × Json)} {key : String} {front default : Json} {faces parts : List Json}

theorem given_eq_null_iff :
    given key ms = .null ↔ member key ms = .null ∧ member key (frontMembers ms) = .null := by
  rw [given]
  split
  · rename_i hown
    rw [hown]
    exact ⟨fun h => ⟨rfl, h⟩, And.right⟩
  · rename_i hown
    exact ⟨fun h => absurd h hown, fun h => absurd h.1 hown⟩

theorem fromEither_eq_given :
    fromEither (.object ms) (.object (frontMembers ms)) key = .ok (given key ms) := by
  rw [fromEither, get_object, ok_bind, given, get_object]
  cases member key ms <;> rfl

/-- Only objects have members to be read. -/
theorem exists_object_of_getOr {face part : Json} (h : face.getOr key default = .ok part) :
    ∃ fm, face = .object fm := by
  cases face with
  | object fm => exact ⟨fm, rfl⟩
  | _ => cases h

/-- **The faces of a record are objects if their members are read.** -/
theorem faces_of_read
    (hfront : frontOf ((member "card_faces" ms).orElse (.array [])) = .ok front)
    (hfaces : ((member "card_faces" ms).orElse (.array [])).items = .ok faces)
    (hparts : faces.mapM (·.getOr key default) = .ok parts) :
    faces = facesOf ms ∧ front = .object (frontMembers ms)
      ∧ ∀ face ∈ facesOf ms, ∃ fm, face = .object fm := by
  have hobjects : ∀ face ∈ faces, ∃ fm, face = .object fm := by
    intro face hface
    obtain ⟨part, hpart⟩ := exists_ok_of_mapM hparts face hface
    exact exists_object_of_getOr hpart
  rw [frontMembers, facesOf]
  generalize member "card_faces" ms = value at hfront hfaces ⊢
  by_cases htrue : value.isTruthy = true
  · rw [Json.orElse, if_pos htrue] at hfront hfaces
    unfold frontOf at hfront
    rw [if_pos htrue] at hfront
    cases value with
    | null | bool b | int n | double x | object members => cases hfront
    | string s =>
      -- a face of one character has no members
      have hne : s.toList ≠ [] := by simpa [Json.isTruthy] using htrue
      obtain ⟨c, hc⟩ := List.exists_mem_of_ne_nil s.toList hne
      cases hfaces
      obtain ⟨fm, hfm⟩ := hobjects _ (List.mem_map.mpr ⟨c, hc, rfl⟩)
      cases hfm
    | array items =>
      cases hfaces
      cases faces with
      | nil => cases hfront
      | cons face faces =>
        cases hfront
        obtain ⟨fm, rfl⟩ := hobjects _ List.mem_cons_self
        exact ⟨rfl, rfl, hobjects⟩
  · rw [Json.orElse, if_neg htrue] at hfront hfaces
    cases hfront
    cases hfaces
    cases value with
    | array items =>
      have hnil : items = [] := by simpa [Json.isTruthy] using htrue
      rw [hnil]
      exact ⟨rfl, rfl, List.forall_mem_nil _⟩
    | _ => exact ⟨rfl, rfl, List.forall_mem_nil _⟩

end Given

/-! ## What is printed -/

section Printed

variable {j : Json} {x : Option Double} {s : String}

theorem statText_eq_null_iff : statText j = .null ↔ j = .null := by
  cases j <;> simp [statText]

/-- No number is printed with a star. -/
theorem star_not_mem_of_isNumeral {t : List Char} (h : IsNumeral t) : '*' ∉ t := fun hstar =>
  absurd (h '*' hstar) (by decide)

theorem star_not_mem_text (x : Double) : '*' ∉ x.text.toList := by
  cases x with
  | nan => decide
  | infinite negative => cases negative <;> decide
  | finite negative significand shift fits =>
    have htext : (Double.finite negative significand shift fits).text.toList
        = Layout.plain.write (.finite negative significand shift fits) := String.toList_ofList
    rw [htext]
    exact star_not_mem_of_isNumeral (Layout.write_isNumeral _ _)

/-- **A stat that is printed with a star has the number zero.** -/
theorem statOf_of_star (hx : statOf j = .ok x) (hs : statText j = .string s)
    (hstar : '*' ∈ s.toList) : x = some (.zero false) := by
  cases j with
  | null => cases hs
  | bool b =>
    cases hs
    cases b <;> exact absurd hstar (by decide)
  | int n =>
    cases hs
    have htext : (Json.int n).text.toList = (toString n).toList := String.toList_ofList
    rw [htext] at hstar
    exact absurd hstar (star_not_mem_of_isNumeral (IsNumeral.toString n))
  | double y =>
    cases hs
    have htext : (Json.double y).text.toList = y.text.toList := String.toList_ofList
    rw [htext] at hstar
    exact absurd hstar (star_not_mem_text y)
  | string t =>
    have hself : t = s := Json.string.inj hs
    rw [statOf_string, hself, if_pos hstar] at hx
    exact (Except.ok.inj hx).symm
  | array items | object members =>
    -- a collection gives a number only for a star among its items
    rw [statOf.eq_def] at hx
    dsimp only at hx
    obtain ⟨b, -, hx⟩ := bind_eq_ok_iff.mp hx
    cases b with
    | true => exact (Except.ok.inj hx).symm
    | false => cases hx

theorem hasPiece_star_of_mem (hstar : '*' ∈ s.toList) : Text.hasPiece s "*" = true := by
  obtain ⟨before, after, hsplit⟩ := List.append_of_mem hstar
  exact Text.isPiece_iff.mpr ⟨before, after, by rw [hsplit, List.append_cons]; rfl⟩

/-- The number of a stat that is given as a text without a star. -/
theorem statOf_eq_none_iff (hx : statOf (.string s) = .ok x) (hstar : '*' ∉ s.toList) :
    x = none ↔ ∀ d ∈ s.toList, Text.isDigit d = false := by
  rw [statOf_string, if_neg hstar] at hx
  exact (firstNumber_endsIn s).of_eq_ok hx

theorem numberOrNull_eq_null_iff : numberOrNull x = .null ↔ x = none := by
  cases x <;> simp [numberOrNull]

end Printed

namespace Card

section Stats

variable {raw : Json} {c : Card} {field : Field}

/-- A stat is made of what the record gives for it. -/
theorem statFrom_given {ms : List (String × Json)} {key : String} {stat : Json × Json}
    (h : statFrom (.object ms) (.object (frontMembers ms)) key = .ok stat) :
    ∃ x, statOf (given key ms) = .ok x
      ∧ stat.1 = numberOrNull x ∧ stat.2 = statText (given key ms) := by
  rw [statFrom, fromEither_eq_given, ok_bind, bind_eq_ok_iff] at h
  obtain ⟨x, hx, h⟩ := h
  cases h
  exact ⟨x, hx, rfl, rfl⟩

/-- **The number and the printed text of a stat are made of one value.** -/
theorem ofRecord_stats (hc : ofRecord raw = .ok c) : ∃ ms, raw = .object ms
    ∧ ∀ field : Field, field.isStat = true → ∃ x, statOf (given field.key ms) = .ok x
      ∧ c.content field = numberOrNull x ∧ c.printed field = statText (given field.key ms) := by
  obtain ⟨ms, rfl⟩ : ∃ ms, raw = .object ms := by
    cases raw with
    | object ms => exact ⟨ms, rfl⟩
    | _ => cases hc
  refine ⟨ms, rfl, ?_⟩
  unfold ofRecord at hc
  simp only [bind_eq_ok_iff, get_object, ok_bind] at hc
  obtain ⟨front, hfront, faces, hfaces, oracle, -, colors, -, name, -, line, -, cost, -, artist, -,
    names, -, lines, hlines, texts, -, keywords, -, games, -, finishes, -, hc⟩ := hc
  obtain ⟨-, rfl, -⟩ := faces_of_read hfront hfaces hlines
  obtain ⟨colors, -, identity, -, produced, -, value, -, power, hpower, toughness, htoughness,
    loyalty, hloyalty, defense, hdefense, year, -, rarity, -, set, -, legalities, -, hc⟩ := hc
  obtain ⟨reserved, -, reprint, -, promo, -, full, -, digital, -, hc⟩ := hc
  cases hc
  intro field hfield
  cases field with
  | power => exact statFrom_given hpower
  | toughness => exact statFrom_given htoughness
  | loyalty => exact statFrom_given hloyalty
  | defense => exact statFrom_given hdefense
  | _ => cases hfield

/-- A stat is compared with a star by its printed text. -/
theorem matches_star (hstat : field.isStat = true) (op : CompareOp) :
    (Query.compare field op (.keyword "*")).matches c = matchStar op (c.printed field) := by
  cases field with
  | power | toughness | loyalty | defense => rfl
  | _ => cases hstat

theorem matchStar_string (op : CompareOp) (s : String) :
    matchStar op (.string s) = .ok (Text.hasPiece s "*" != (op == .ne)) := rfl

/-- **Printed stats and their numbers go together.**  Take a stat of a card that a record gives, and
what the record gives for it, its own value or else that of its front face.  The stat has no printed
text exactly if neither is given, and then it has no number.  With a star in its text its number is
zero, and it is found by `=` and not by `!=`.  If a text without a star is given, the stat has a
number exactly if there is a digit in it.  A card that is found by neither has no number. -/
theorem stats_go_together (hc : ofRecord raw = .ok c) (hstat : field.isStat = true) :
    ∃ ms, raw = .object ms
      ∧ (c.printed field = .null
        ↔ member field.key ms = .null ∧ member field.key (frontMembers ms) = .null)
      ∧ (c.printed field = .null → c.content field = .null)
      ∧ (∀ s, c.printed field = .string s → '*' ∈ s.toList →
        c.content field = .double (.zero false)
          ∧ (Query.compare field .eq (.keyword "*")).matches c = .ok true
          ∧ (Query.compare field .ne (.keyword "*")).matches c = .ok false)
      ∧ (∀ s, given field.key ms = .string s → '*' ∉ s.toList →
        c.printed field = .string s
          ∧ (c.content field = .null ↔ ∀ d ∈ s.toList, Text.isDigit d = false))
      ∧ ((Query.compare field .eq (.keyword "*")).matches c = .ok false →
        (Query.compare field .ne (.keyword "*")).matches c = .ok false →
        c.content field = .null) := by
  obtain ⟨ms, rfl, hall⟩ := ofRecord_stats hc
  obtain ⟨x, hx, hnumber, htext⟩ := hall field hstat
  have hwithout : c.printed field = .null → c.content field = .null := by
    intro hnull
    rw [htext, statText_eq_null_iff] at hnull
    rw [hnull] at hx
    rw [hnumber, numberOrNull_eq_null_iff]
    exact (Except.ok.inj hx).symm
  refine ⟨ms, rfl, ?_, hwithout, ?_, ?_, ?_⟩
  · rw [htext, statText_eq_null_iff, given_eq_null_iff]
  · intro s hs hstar
    have hpiece : Text.hasPiece s "*" = true := hasPiece_star_of_mem hstar
    refine ⟨?_, ?_, ?_⟩
    · rw [hnumber, statOf_of_star hx (htext.symm.trans hs) hstar]
      rfl
    · rw [matches_star hstat, hs, matchStar_string, hpiece]
      rfl
    · rw [matches_star hstat, hs, matchStar_string, hpiece]
      rfl
  · intro s hs hstar
    rw [htext, hs, hnumber, numberOrNull_eq_null_iff]
    rw [hs] at hx
    exact ⟨rfl, statOf_eq_none_iff hx hstar⟩
  · intro heq hne
    rw [matches_star hstat] at heq hne
    rcases orNull_isText_statText (given field.key ms) with hnull | ⟨s, hs⟩
    · exact hwithout (htext.trans hnull)
    · -- one of the two finds a printed text
      rw [htext, hs, matchStar_string] at heq hne
      cases hpiece : Text.hasPiece s "*" with
      | true =>
        rw [hpiece] at heq
        cases heq
      | false =>
        rw [hpiece] at hne
        cases hne

/-- A record with a stat of its own, and a front face with two others. -/
def mixedStats : List (String × Json) :=
  [("name", .string "Tarmogoyf // Shadow"), ("toughness", .string "٤+X"),
    ("card_faces", .array [.object [("name", .string "Tarmogoyf"), ("power", .string "1+*"),
      ("toughness", .null), ("defense", .string "X")]])]

theorem mixedStats_go_together : ∃ c, ofRecord (.object mixedStats) = .ok c
    ∧ c.content .power = .double (.zero false)
    ∧ (Query.compare .power .eq (.keyword "*")).matches c = .ok true
    ∧ c.content .toughness ≠ .null
    ∧ c.printed .defense = .string "X" ∧ c.content .defense = .null
    ∧ c.printed .loyalty = .null ∧ c.content .loyalty = .null := by
  have hok : (ofRecord (.object mixedStats)).toBool = true := by decide +kernel
  cases hc : ofRecord (.object mixedStats) with
  | error f =>
    rw [hc] at hok
    cases hok
  | ok c =>
    have hstats {field : Field} (h : field.isStat = true) := stats_go_together hc h
    obtain ⟨ms, hms, hall⟩ := ofRecord_stats hc
    cases hms
    have hpower : c.printed .power = .string "1+*" := by
      obtain ⟨x, -, -, htext⟩ := hall .power rfl
      exact htext
    obtain ⟨ms, hms, -, -, hstar, -⟩ := hstats (rfl : Field.power.isStat = true)
    cases hms
    obtain ⟨hzero, heq, -⟩ := hstar _ hpower (by decide)
    obtain ⟨ms, hms, -, -, -, htoughness, -⟩ := hstats (rfl : Field.toughness.isStat = true)
    cases hms
    obtain ⟨-, hdigit⟩ := htoughness "٤+X" rfl (by decide)
    obtain ⟨ms, hms, -, -, -, hdefense, -⟩ := hstats (rfl : Field.defense.isStat = true)
    cases hms
    obtain ⟨hletter, hnone⟩ := hdefense "X" rfl (by decide)
    obtain ⟨ms, hms, hmissing, hwithout, -⟩ := hstats (rfl : Field.loyalty.isStat = true)
    cases hms
    have hloyalty := hmissing.mpr ⟨rfl, rfl⟩
    have hX : ∀ d ∈ "X".toList, Text.isDigit d = false := by
      intro d hd
      obtain rfl : d = 'X' := by simpa using hd
      decide
    refine ⟨c, rfl, hzero, heq, ?_, hletter, hnone.mpr hX, hloyalty, hwithout hloyalty⟩
    intro hnull
    exact absurd (hdigit.mp hnull '٤' (by simp)) (by decide)

end Stats

end Card

end CardQuery

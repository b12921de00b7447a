import CardQuery.Card.Record
import CardQuery.Proofs.Outcome
import CardQuery.Proofs.Typing.Evaluation
import CardQuery.Proofs.Typing.Stat

/-!
# Proofs/Typing/Record — which records are scanned to the end

In a record of the declared types (`IsRecord`) a member may be missing or null instead.

* `Card.ofRecord_endsIn` — such a record gives a card, unless its colors or its type line are lost.
* `Card.IsOf.matches_succeeds` — a well-typed query is decided for that card, if it can be told
  whether the card can lead a deck.
* `Card.records_scanned` — both are exact, so that they tell which records end a scan.

A member that is missing does no harm, and neither does a null of the record itself.  A null that a
face writes does: `faceText` puts the empty text in the place of what is missing only, so that the
null goes on.  It cannot be joined to the type line of the card (`LosesTypeLine`) nor its colors be
gone through (`LosesColors`), and where it gets into the card, `Card.canLead` stops at it unless an
earlier text settles the matter (`Card.LosesLeader`).
-/

namespace CardQuery

open Json

/-! ## Records -/

/-- The value of a member, null if there is none. -/
def member (key : String) (ms : List (String × Json)) : Json := (Json.find? key ms).getD .null

/-- The members of a face with a text. -/
def faceTexts : List String :=
  ["name", "type_line", "oracle_text", "mana_cost", "artist", "power", "toughness", "loyalty",
    "defense"]

/-- A face of which every member that is read is missing, null or of its type. -/
def IsFace (face : Json) : Prop :=
  ∃ ms, face = .object ms ∧ (∀ key ∈ faceTexts, OrNull IsText (member key ms))
    ∧ OrNull IsTexts (member "colors" ms)

/-- The members of a record with a text. -/
def recordTexts : List String :=
  ["type_line", "oracle_text", "mana_cost", "artist", "power", "toughness", "loyalty", "defense",
    "released_at", "rarity", "set", "collector_number", "layout", "lang"]

/-- The members of a record with a list of texts. -/
def recordLists : List String :=
  ["colors", "color_identity", "produced_mana", "keywords", "games", "finishes"]

/-- **A record with a name, of which every other member that is read is missing, null or of its
type.**  The marks may be anything. -/
structure IsRecord (ms : List (String × Json)) : Prop where
  name : IsText (member "name" ms)
  faces : OrNull (fun j => ∃ fs, j = .array fs ∧ ∀ f ∈ fs, IsFace f) (member "card_faces" ms)
  texts : ∀ key ∈ recordTexts, OrNull IsText (member key ms)
  lists : ∀ key ∈ recordLists, OrNull IsTexts (member key ms)
  manaValue : OrNull (fun j => ∃ x, j = .double x) (member "cmc" ms)
  legalities : OrNull IsTable (member "legalities" ms)

/-- The faces of a record. -/
def facesOf (ms : List (String × Json)) : List Json :=
  match member "card_faces" ms with
  | .array faces => faces
  | _ => []

/-- What a face has for a text: an empty text if there is no member, but null if null is written. -/
def faceText (key : String) : Json → Json
  | .object ms => (Json.find? key ms).getD (.string "")
  | _ => .null

/-- Whether a face writes null for a member. -/
def WritesNull (key : String) (face : Json) : Prop :=
  ∃ ms, face = .object ms ∧ Json.find? key ms = some .null

/-- A record without colors of its own, and a face of it with null for colors. -/
def LosesColors (ms : List (String × Json)) : Prop :=
  member "colors" ms = .null ∧ ∃ face ∈ facesOf ms, WritesNull "colors" face

/-- A record without a type line of its own, and a face of it with null for a type line. -/
def LosesTypeLine (ms : List (String × Json)) : Prop :=
  (member "type_line" ms).isTruthy = false ∧ ∃ face ∈ facesOf ms, WritesNull "type_line" face

/-! ## Parts of a record -/

section Parts

variable {key : String} {ms : List (String × Json)} {face : Json} {faces : List Json}

theorem orElse_isText {j : Json} (h : OrNull IsText j) (s : String) :
    IsText (j.orElse (.string s)) := by
  rcases h with rfl | h
  · exact isText_string s
  · exact h.orElse s

theorem orElse_null_isText {j : Json} (h : OrNull IsText j) : OrNull IsText (j.orElse .null) := by
  rw [Json.orElse]
  split
  · exact h
  · exact .inl rfl

theorem require_of_member {s : String} (h : member key ms = .string s) :
    Json.require key (.object ms) = .ok (.string s) := by
  have hmembers : (Json.object ms).asMembers = .ok ms := rfl
  rw [member] at h
  rw [Json.require, hmembers, ok_bind]
  cases hfind : Json.find? key ms with
  | none =>
    rw [hfind] at h
    cases h
  | some j =>
    rw [hfind] at h
    exact congrArg Except.ok h

theorem get_object : Json.get key (.object ms) = .ok (member key ms) := rfl

/-- The faces of a record are what is read as its faces. -/
theorem faces_eq_facesOf {P : Json → Prop}
    (h : OrNull (fun j => ∃ fs, j = .array fs ∧ ∀ f ∈ fs, P f) (member "card_faces" ms)) :
    (member "card_faces" ms).orElse (.array []) = .array (facesOf ms)
      ∧ ∀ face ∈ facesOf ms, P face := by
  rw [facesOf]
  rcases h with hnull | ⟨faces, harray, hfaces⟩
  · rw [hnull]
    exact ⟨rfl, nofun⟩
  · rw [harray]
    cases faces <;> exact ⟨rfl, hfaces⟩

theorem IsRecord.facesOf_isFace (h : IsRecord ms) : ∀ face ∈ facesOf ms, IsFace face :=
  (faces_eq_facesOf h.faces).2

theorem isFace_empty : IsFace (.object []) := ⟨[], rfl, fun _ _ => .inl rfl, .inl rfl⟩

theorem frontOf_array (h : ∀ face ∈ faces, IsFace face) :
    ∃ front, frontOf (.array faces) = .ok front ∧ IsFace front := by
  cases faces with
  | nil => exact ⟨_, rfl, isFace_empty⟩
  | cons front faces => exact ⟨front, rfl, h front List.mem_cons_self⟩

theorem IsFace.get_text (h : IsFace face) (hkey : key ∈ faceTexts) :
    ∃ j, face.get key = .ok j ∧ OrNull IsText j := by
  obtain ⟨ms, rfl, htexts, -⟩ := h
  exact ⟨_, rfl, htexts key hkey⟩

theorem faceText_object {s : String} (hs : member key ms = .string s) :
    faceText key (.object ms) = .string s := by
  rw [member] at hs
  rw [faceText]
  cases hfind : Json.find? key ms with
  | none =>
    rw [hfind] at hs
    cases hs
  | some j =>
    rw [hfind] at hs
    exact hs

theorem orNull_faceText (h : OrNull IsText (member key ms)) :
    OrNull IsText (faceText key (.object ms)) := by
  rw [member] at h
  rw [faceText]
  cases hfind : Json.find? key ms with
  | none => exact .inr (isText_string "")
  | some j =>
    rw [hfind] at h
    exact h

/-- A face has a text, or nothing, or null that it writes. -/
theorem IsFace.faceText (h : IsFace face) (hkey : key ∈ faceTexts) :
    face.getOr key (.string "") = .ok (CardQuery.faceText key face)
      ∧ OrNull IsText (CardQuery.faceText key face)
      ∧ (CardQuery.faceText key face = .null ↔ WritesNull key face) := by
  obtain ⟨ms, rfl, htexts, -⟩ := h
  refine ⟨rfl, orNull_faceText (htexts key hkey), ?_⟩
  rw [CardQuery.faceText]
  constructor
  · intro hnull
    cases hfind : Json.find? key ms with
    | none =>
      rw [hfind] at hnull
      cases hnull
    | some j =>
      rw [hfind] at hnull
      exact ⟨ms, rfl, by rw [hfind]; exact congrArg some hnull⟩
  · rintro ⟨ms', hms, hfind⟩
    cases hms
    rw [hfind]
    rfl

/-- **Texts are joined unless one of them is null.** -/
theorem join_endsIn (separator : String) {parts : List Json} (h : ∀ p ∈ parts, OrNull IsText p) :
    EndsIn (Json.join separator parts) (.null ∈ parts) fun _ => True := by
  have hone : ∀ p ∈ parts, EndsIn p.joinedText (p = .null) fun _ => True := by
    intro p hp
    rcases h p hp with rfl | ⟨s, rfl⟩
    · exact ⟨fun _ => ⟨_, rfl⟩, fun hn => absurd rfl hn⟩
    · exact (endsIn_ok trivial).congr (by simp)
  have hall := (mapM_endsIn hone).beforeAll fun texts _ =>
    endsIn_ok (P := fun _ : String => True) (a := separator.intercalate texts) trivial
  exact hall.congr (by simp)

theorem joinedTexts_endsIn (h : ∀ face ∈ faces, IsFace face) :
    EndsIn (joinedTexts faces) False IsText := by
  have hone : ∀ face ∈ faces, EndsIn (do
      let text ← face.get "oracle_text"
      return if text.isTruthy then some text else none) False fun o => ∀ t ∈ o, IsText t := by
    intro face hface
    have hkey : "oracle_text" ∈ faceTexts := by decide
    obtain ⟨text, htext, htype⟩ := (h face hface).get_text hkey
    rw [htext]
    refine endsIn_ok fun t ht => ?_
    rcases htype with rfl | ⟨s, rfl⟩
    · cases ht
    · split at ht
      · cases ht
        exact isText_string s
      · cases ht
  refine (filterMapM_endsIn hone).andThen fun texts htexts => ?_
  have hjoin := join_endsIn "\n//\n" fun t ht => .inr (htexts t ht)
  have hnull : .null ∈ texts ↔ False := by
    refine ⟨fun hmem => ?_, nofun⟩
    obtain ⟨s, hs⟩ := htexts _ hmem
    cases hs
  exact (hjoin.congr hnull).andThen fun s _ => endsIn_ok (isText_string s)

/-- The colors of the faces are read unless one of them writes null. -/
theorem joinedColors_endsIn (h : ∀ face ∈ faces, IsFace face) :
    EndsIn (joinedColors faces) (∃ face ∈ faces, WritesNull "colors" face)
      fun j => ∃ xs, j = .array xs := by
  have hone : ∀ face ∈ faces, EndsIn (do (← face.getOr "colors" (.array [])).items)
      (WritesNull "colors" face) fun _ => True := by
    intro face hface
    obtain ⟨ms, rfl, -, hcolors⟩ := h face hface
    have hget : Json.getOr (.object ms) "colors" (.array [])
        = .ok ((Json.find? "colors" ms).getD (.array [])) := rfl
    rw [hget]
    rw [member] at hcolors
    cases hfind : Json.find? "colors" ms with
    | none =>
      refine (endsIn_ok trivial).congr ⟨nofun, ?_⟩
      rintro ⟨ms', hms, hnull⟩
      cases hms
      rw [hfind] at hnull
      cases hnull
    | some j =>
      rw [hfind] at hcolors
      rcases hcolors with hnull | ⟨xs, hxs, -⟩
      · obtain rfl : j = .null := hnull
        exact ⟨fun _ => ⟨_, rfl⟩, fun hn => absurd ⟨ms, rfl, hfind⟩ hn⟩
      · obtain rfl : j = .array xs := hxs
        refine (endsIn_ok trivial).congr ⟨nofun, ?_⟩
        rintro ⟨ms', hms, hnull⟩
        cases hms
        rw [hfind] at hnull
        cases hnull
  exact (mapM_endsIn hone).beforeAll fun colors _ => endsIn_ok ⟨colors.flatten, rfl⟩

theorem ownOrJoinedTexts_endsIn {own : Json} (hown : OrNull IsText own)
    (h : ∀ face ∈ faces, IsFace face) :
    EndsIn (ownOrJoinedTexts own faces) False (OrNull IsText) := by
  unfold ownOrJoinedTexts
  split
  · exact (joinedTexts_endsIn h).imp fun _ htext => .inr htext
  · exact endsIn_ok hown

theorem ownOrJoinedColors_endsIn {own : Json} (hown : OrNull IsTexts own)
    (h : ∀ face ∈ faces, IsFace face) :
    EndsIn (ownOrJoinedColors own faces)
      (own = .null ∧ ∃ face ∈ faces, WritesNull "colors" face)
      fun j => j = .null ∨ ∃ xs, j = .array xs := by
  rcases hown with rfl | ⟨xs, rfl, -⟩
  · unfold ownOrJoinedColors
    cases faces with
    | nil => exact (endsIn_ok (.inl rfl)).congr (by simp)
    | cons face faces =>
      exact ((joinedColors_endsIn h).imp fun _ hj => .inr hj).congr (by simp)
  · exact (endsIn_ok (.inr ⟨xs, rfl⟩)).congr (by simp)

theorem mapM_faceText (h : ∀ face ∈ faces, ∃ ms, face = .object ms) (key : String) :
    faces.mapM (·.getOr key (.string "")) = .ok (faces.map (faceText key)) :=
  mapM_eq_map fun face hface => by
    obtain ⟨ms, rfl⟩ := h face hface
    rfl

theorem null_mem_map_faceText (h : ∀ face ∈ faces, IsFace face) (hkey : key ∈ faceTexts) :
    .null ∈ faces.map (faceText key) ↔ ∃ face ∈ faces, WritesNull key face := by
  rw [List.mem_map]
  exact exists_congr fun face => and_congr_right fun hface => ((h face hface).faceText hkey).2.2

theorem ownOrJoinedLines_endsIn {own : Json} (hown : OrNull IsText own)
    (h : ∀ face ∈ faces, IsFace face) :
    EndsIn (ownOrJoinedLines own faces)
      (own.isTruthy = false ∧ ∃ face ∈ faces, WritesNull "type_line" face) IsText := by
  have hkey : "type_line" ∈ faceTexts := by decide
  unfold ownOrJoinedLines
  split
  · rename_i htrue
    refine (endsIn_ok ?_).congr (by simp [htrue])
    rcases hown with rfl | htext
    · cases htrue
    · exact htext
  · rename_i hfalse
    have htypes : ∀ line ∈ faces.map (faceText "type_line"), OrNull IsText line := by
      intro line hline
      obtain ⟨face, hface, rfl⟩ := List.mem_map.mp hline
      exact ((h face hface).faceText hkey).2.1
    rw [mapM_faceText (fun face hface => (h face hface).imp fun _ => And.left), ok_bind]
    refine ((join_endsIn " // " htypes).beforeAll fun line _ =>
      endsIn_ok (isText_string line)).congr ?_
    rw [null_mem_map_faceText h hkey]
    simp [hfalse]

theorem ownOrFrontCost_endsIn {own front : Json} (hown : OrNull IsText own) (h : IsFace front) :
    EndsIn (ownOrFrontCost own front) False IsText := by
  unfold ownOrFrontCost
  split
  · rename_i htrue
    rcases hown with rfl | htext
    · cases htrue
    · exact endsIn_ok htext
  · have hkey : "mana_cost" ∈ faceTexts := by decide
    obtain ⟨text, htext, htype⟩ := h.get_text hkey
    rw [htext]
    rcases htype with rfl | htype
    · exact endsIn_ok (isText_string "")
    · exact endsIn_ok (htype.orElse "")

theorem faceName?_endsIn (h : IsFace face) :
    EndsIn (faceName? face) False fun o => ∀ name ∈ o, IsText name := by
  obtain ⟨ms, rfl, htexts, -⟩ := h
  have htype : OrNull IsText (member "name" ms) := htexts "name" (by decide)
  rw [faceName?, get_object, ok_bind]
  rw [member] at htype ⊢
  cases hfind : Json.find? "name" ms with
  | none => exact endsIn_ok nofun
  | some name =>
    rw [hfind] at htype
    have hrequire : Json.require "name" (.object ms) = .ok name := by
      have hmembers : (Json.object ms).asMembers = .ok ms := rfl
      rw [Json.require, hmembers, ok_bind, hfind]
      rfl
    rw [hrequire]
    split
    · rename_i htrue
      refine endsIn_ok fun t ht => ?_
      obtain rfl : name = t := Option.some.inj ht
      rcases htype with hnull | htext
      · obtain rfl : name = .null := hnull
        cases htrue
      · exact htext
    · exact endsIn_ok nofun

/-- A member of a record, or else of its front face, has its type. -/
theorem fromEither_endsIn {front : Json} (h : IsRecord ms) (hfront : IsFace front)
    (hrecord : key ∈ recordTexts) (hface : key ∈ faceTexts) :
    EndsIn (fromEither (.object ms) front key) False (OrNull IsText) := by
  obtain ⟨text, htext, htype⟩ := hfront.get_text hface
  rw [fromEither, get_object]
  rcases h.texts key hrecord with hnull | ⟨s, hs⟩
  · rw [hnull]
    exact ⟨nofun, fun _ => ⟨text, htext, htype⟩⟩
  · rw [hs]
    exact endsIn_ok (.inr ⟨s, rfl⟩)

theorem statOf_endsIn {j : Json} (h : OrNull IsText j) : EndsIn (statOf j) False fun _ => True := by
  rcases h with rfl | ⟨s, rfl⟩
  · exact endsIn_ok trivial
  · exact statOf_endsIn_of_isScalar (j := .string s) trivial

theorem orNull_isNumber_numberOrNull (x : Option Double) : OrNull IsNumber (numberOrNull x) := by
  cases x with
  | none => exact .inl rfl
  | some x => exact .inr (.inl ⟨x, rfl⟩)

theorem orNull_isText_statText (j : Json) : OrNull IsText (statText j) := by
  unfold statText
  split
  · exact .inl rfl
  · exact .inr ⟨_, rfl⟩

theorem statFrom_endsIn {front : Json} (h : IsRecord ms) (hfront : IsFace front)
    (hrecord : key ∈ recordTexts) (hface : key ∈ faceTexts) :
    EndsIn (statFrom (.object ms) front key) False
      fun stat => OrNull IsNumber stat.1 ∧ OrNull IsText stat.2 :=
  (fromEither_endsIn h hfront hrecord hface).andThen fun value hvalue =>
    (statOf_endsIn hvalue).andThen fun x _ =>
      endsIn_ok ⟨orNull_isNumber_numberOrNull x, orNull_isText_statText value⟩

theorem listed_endsIn {j : Json} (h : OrNull IsTexts j) : EndsIn j.listed False IsTexts := by
  rcases h with rfl | h
  · exact endsIn_ok ⟨[], rfl, nofun⟩
  · obtain ⟨xs, hxs, htexts⟩ := h.orElse.items
    rw [listed, hxs]
    exact endsIn_ok ⟨xs, rfl, htexts⟩

theorem colorsOf_endsIn {j : Json} (h : j = .null ∨ ∃ xs, j = .array xs) :
    EndsIn (colorsOf j) False fun _ => True := by
  rcases h with rfl | ⟨xs, rfl⟩
  · exact endsIn_ok trivial
  · exact endsIn_ok trivial

theorem producedColors_endsIn {j : Json} (h : j = .null ∨ ∃ xs, j = .array xs) :
    EndsIn (producedColors j) False fun _ => True := by
  rcases h with rfl | ⟨xs, rfl⟩
  · exact endsIn_ok trivial
  · exact endsIn_ok trivial

theorem floatOf_endsIn {j : Json} (h : OrNull (fun j => ∃ x, j = .double x) j) :
    EndsIn (floatOf j) False fun _ => True := by
  rcases h with rfl | ⟨x, rfl⟩
  · exact endsIn_ok trivial
  · exact endsIn_ok trivial

theorem loweredText_endsIn {j : Json} (h : OrNull IsText j) :
    EndsIn j.loweredText False IsText := by
  rcases h with rfl | h
  · exact endsIn_ok (isText_string _)
  · obtain ⟨s, hs⟩ := h.orElse ""
    rw [loweredText, hs]
    exact endsIn_ok (isText_string _)

theorem yearOf_endsIn {j : Json} (h : OrNull IsText j) :
    EndsIn (yearOf j) False fun _ => True := by
  rcases h with rfl | ⟨s, rfl⟩
  · exact endsIn_ok trivial
  · unfold yearOf
    split
    · exact endsIn_ok trivial
    · exact endsIn_ok trivial

theorem tableOf_endsIn {j : Json} (h : OrNull IsTable j) : EndsIn j.tableOf False IsTable := by
  have hempty : IsTable (.object []) := ⟨[], rfl, nofun⟩
  rcases h with rfl | ⟨ms, rfl, hms⟩
  · exact endsIn_ok hempty
  · unfold tableOf
    split
    · exact endsIn_ok ⟨ms, rfl, hms⟩
    · exact endsIn_ok hempty

end Parts

/-! ## Cards of records -/

namespace Card

/-- A card without the type lines and the oracle texts of its faces. -/
def faceless (c : Card) : Card :=
  { c with faceTypeLines := .array [], faceOracleTexts := .array [] }

/-- A card of a record: its parts have the declared types, but among the type lines and the oracle
texts of its faces stand the nulls that the faces write. -/
structure IsOf (c : Card) (ms : List (String × Json)) : Prop where
  faceless : c.faceless.WellFormed
  faceTypeLines : c.faceTypeLines = .array ((facesOf ms).map (faceText "type_line"))
  faceOracleTexts : c.faceOracleTexts = .array ((facesOf ms).map (faceText "oracle_text"))

variable {ms : List (String × Json)}

/-- **A record gives a card unless its colors or its type line are lost.** -/
theorem ofRecord_endsIn (h : IsRecord ms) :
    EndsIn (ofRecord (.object ms)) (LosesColors ms ∨ LosesTypeLine ms) fun c => c.IsOf ms := by
  have hfaces := h.facesOf_isFace
  obtain ⟨front, hfront, hfrontType⟩ := frontOf_array hfaces
  have hitems : (Json.array (facesOf ms)).items = .ok (facesOf ms) := rfl
  obtain ⟨name, hname⟩ := h.name
  have hrequire : Json.require "name" (.object ms) = .ok (.string name) := require_of_member hname
  have hstat {key : String} (hrecord : key ∈ recordTexts) (hface : key ∈ faceTexts) :=
    statFrom_endsIn h hfrontType hrecord hface
  have hmembers : ∀ face ∈ facesOf ms, ∃ fm, face = .object fm :=
    fun face hface => (hfaces face hface).imp fun _ => And.left
  have hlines := mapM_faceText hmembers "type_line"
  have htexts := mapM_faceText hmembers "oracle_text"
  have hcolorList (key : String) (hkey : key ∈ recordLists) :
      member key ms = .null ∨ ∃ xs, member key ms = .array xs :=
    (h.lists key hkey).imp_right fun ⟨xs, hxs, _⟩ => ⟨xs, hxs⟩
  unfold ofRecord
  simp only [get_object, ok_bind, pure_bind, (faces_eq_facesOf h.faces).1, hfront, hitems, hrequire, hlines, htexts]
  refine (ownOrJoinedTexts_endsIn (h.texts "oracle_text" (by decide)) hfaces).andThen
    fun oracleText horacle => ?_
  refine (ownOrJoinedColors_endsIn (h.lists "colors" (by decide)) hfaces).bind
    fun colors hcolors => ?_
  refine (ownOrJoinedLines_endsIn (h.texts "type_line" (by decide)) hfaces).beforeAll
    fun typeLine htypeLine => ?_
  refine (ownOrFrontCost_endsIn (h.texts "mana_cost" (by decide)) hfrontType).andThen
    fun manaCost hmanaCost => ?_
  refine (fromEither_endsIn h hfrontType (by decide) (by decide)).andThen fun artist hartist => ?_
  refine (filterMapM_endsIn fun face hface => faceName?_endsIn (hfaces face hface)).andThen
    fun faceNames hfaceNames => ?_
  refine (listed_endsIn (h.lists "keywords" (by decide))).andThen fun keywords hkeywords => ?_
  refine (listed_endsIn (h.lists "games" (by decide))).andThen fun games hgames => ?_
  refine (listed_endsIn (h.lists "finishes" (by decide))).andThen fun finishes hfinishes => ?_
  refine (colorsOf_endsIn hcolors).andThen fun colors _ => ?_
  refine (colorsOf_endsIn (hcolorList "color_identity" (by decide))).andThen fun identity _ => ?_
  refine (producedColors_endsIn (hcolorList "produced_mana" (by decide))).andThen
    fun produced _ => ?_
  refine (floatOf_endsIn h.manaValue).andThen fun manaValue _ => ?_
  refine (hstat (by decide) (by decide)).andThen fun power hpower => ?_
  refine (hstat (by decide) (by decide)).andThen fun toughness htoughness => ?_
  refine (hstat (by decide) (by decide)).andThen fun loyalty hloyalty => ?_
  refine (hstat (by decide) (by decide)).andThen fun defense hdefense => ?_
  refine (yearOf_endsIn (h.texts "released_at" (by decide))).andThen fun year _ => ?_
  refine (loweredText_endsIn (h.texts "rarity" (by decide))).andThen fun rarity hrarity => ?_
  refine (loweredText_endsIn (h.texts "set" (by decide))).andThen fun setCode hsetCode => ?_
  refine (tableOf_endsIn h.legalities).andThen fun legalities hlegalities => ?_
  refine endsIn_ok ⟨?_, rfl, rfl⟩
  exact {
    name := isText_string name
    typeLine := htypeLine
    oracleText := orElse_isText horacle ""
    manaCost := hmanaCost
    artist := orElse_isText hartist ""
    faceNames := ⟨faceNames, rfl, hfaceNames⟩
    faceTypeLines := ⟨[], rfl, nofun⟩
    faceOracleTexts := ⟨[], rfl, nofun⟩
    keywords := hkeywords
    games := hgames
    finishes := hfinishes
    colors := ⟨colors, rfl⟩
    colorIdentity := ⟨identity, rfl⟩
    manaValue := orNull_isNumber_numberOrNull manaValue
    power := hpower.1
    toughness := htoughness.1
    loyalty := hloyalty.1
    defense := hdefense.1
    powerText := hpower.2
    toughnessText := htoughness.2
    loyaltyText := hloyalty.2
    defenseText := hdefense.2
    year := orNull_isNumber_numberOrNull year
    releasedAt := orElse_null_isText (h.texts "released_at" (by decide))
    rarity := hrarity
    setCode := hsetCode
    collectorNumber := isText_string _
    layout := orElse_isText (h.texts "layout" (by decide)) "normal"
    lang := orElse_isText (h.texts "lang" (by decide)) "en"
    legalities := hlegalities
    reserved := ⟨_, rfl⟩
    reprint := ⟨_, rfl⟩
    promo := ⟨_, rfl⟩
    fullArt := ⟨_, rfl⟩
    digital := ⟨_, rfl⟩ }

/-! ## Leaders -/

/-- Whether a type line is that of a card that can lead a deck. -/
def leadingLine (line : String) : Bool :=
  Text.hasPiece (Text.lower line) "legendary"
    && ["creature", "vehicle", "spacecraft"].any (Text.hasPiece (Text.lower line))

/-- Whether a text says that a card can lead a deck. -/
def leadingText (text : String) : Bool :=
  Text.hasPiece (Text.lower text) "can be your commander"

/-- Whether one of the texts settles a matter. -/
def Settled (settles : String → Bool) (texts : List Json) : Prop :=
  ∃ s, .string s ∈ texts ∧ settles s = true

/-- Whether a null stands before every text that settles a matter. -/
def Hidden (settles : String → Bool) : List Json → Prop
  | [] => False
  | .string s :: rest => settles s = false ∧ Hidden settles rest
  | _ :: _ => True

/-- A card of a record of which it cannot be told whether it can lead a deck: a face writes null for
a type line or an oracle text, and nothing before it settles the matter. -/
def LosesLeader (c : Card) (ms : List (String × Json)) : Prop :=
  Hidden leadingLine (c.typeLine :: (facesOf ms).map (faceText "type_line"))
    ∨ ¬ Settled leadingLine (c.typeLine :: (facesOf ms).map (faceText "type_line"))
      ∧ Hidden leadingText (c.oracleText :: (facesOf ms).map (faceText "oracle_text"))

section Leaders

variable {settles : String → Bool} {s : String} {texts : List Json}

theorem settled_cons :
    Settled settles (.string s :: texts) ↔ settles s = true ∨ Settled settles texts := by
  constructor
  · rintro ⟨t, ht, hsettles⟩
    rcases List.mem_cons.mp ht with heq | ht
    · cases heq
      exact .inl hsettles
    · exact .inr ⟨t, ht, hsettles⟩
  · rintro (hs | ⟨t, ht, hsettles⟩)
    · exact ⟨s, List.mem_cons_self, hs⟩
    · exact ⟨t, List.mem_cons_of_mem _ ht, hsettles⟩

/-- Texts are gone through until one settles the matter, or null is met. -/
theorem search_endsIn {search : List Json → Except Fault Bool} (hnil : search [] = .ok false)
    (hnull : ∀ rest, ∃ e, search (.null :: rest) = .error e)
    (hcons : ∀ s rest, search (.string s :: rest) = if settles s then .ok true else search rest)
    (h : ∀ t ∈ texts, OrNull IsText t) :
    EndsIn (search texts) (Hidden settles texts) fun b => b = true ↔ Settled settles texts := by
  induction texts with
  | nil =>
    rw [hnil]
    refine endsIn_ok ⟨nofun, ?_⟩
    rintro ⟨s, hs, -⟩
    cases hs
  | cons t texts ih =>
    obtain ⟨ht, htexts⟩ := List.forall_mem_cons.mp h
    rcases ht with rfl | ⟨s, rfl⟩
    · exact ⟨fun _ => hnull texts, fun hn => absurd trivial hn⟩
    · rw [hcons, Hidden, settled_cons]
      cases hs : settles s with
      | true => exact (endsIn_ok (by simp)).congr (by simp)
      | false => exact (ih htexts).congr (by simp) |>.imp fun b hb => by simpa using hb

theorem leadsByType_endsIn (h : ∀ t ∈ texts, OrNull IsText t) :
    EndsIn (leadsByType texts) (Hidden leadingLine texts)
      fun b => b = true ↔ Settled leadingLine texts :=
  search_endsIn rfl (fun _ => ⟨_, rfl⟩) (fun _ _ => rfl) h

theorem leadsByText_endsIn (h : ∀ t ∈ texts, OrNull IsText t) :
    EndsIn (leadsByText texts) (Hidden leadingText texts)
      fun b => b = true ↔ Settled leadingText texts :=
  search_endsIn rfl (fun _ => ⟨_, rfl⟩) (fun _ _ => rfl) h

end Leaders

section Evaluation

variable {c : Card} {ms : List (String × Json)}

theorem IsOf.faceText_types (hms : IsRecord ms) {key : String} (hkey : key ∈ faceTexts) :
    ∀ t ∈ (facesOf ms).map (faceText key), OrNull IsText t := by
  intro t ht
  obtain ⟨face, hface, rfl⟩ := List.mem_map.mp ht
  exact ((hms.facesOf_isFace face hface).faceText hkey).2.1

/-- **It can be told whether a card can lead a deck, unless that is lost.** -/
theorem IsOf.canLead_endsIn (h : c.IsOf ms) (hms : IsRecord ms) :
    EndsIn c.canLead (LosesLeader c ms) fun _ => True := by
  have hlines : ∀ t ∈ c.typeLine :: (facesOf ms).map (faceText "type_line"), OrNull IsText t :=
    List.forall_mem_cons.mpr ⟨.inr h.faceless.typeLine, faceText_types hms (by decide)⟩
  have htexts : ∀ t ∈ c.oracleText :: (facesOf ms).map (faceText "oracle_text"), OrNull IsText t :=
    List.forall_mem_cons.mpr ⟨.inr h.faceless.oracleText, faceText_types hms (by decide)⟩
  have hitems (xs : List Json) : (Json.array xs).items = .ok xs := rfl
  rw [canLead, h.faceTypeLines, h.faceOracleTexts]
  simp only [hitems, ok_bind]
  refine (leadsByType_endsIn hlines).bind fun b hb => ?_
  cases b with
  | true => exact (endsIn_ok trivial).congr (by simp [hb.mp rfl])
  | false =>
    have hnot : ¬ Settled leadingLine (c.typeLine :: (facesOf ms).map (faceText "type_line")) :=
      fun hs => Bool.false_ne_true (hb.mpr hs)
    exact ((leadsByText_endsIn htexts).imp fun _ _ => trivial).congr (by simp [hnot])

theorem IsOf.satisfies_succeeds (h : c.IsOf ms) (hlead : Succeeds c.canLead) (flag : Flag) :
    Succeeds (c.satisfies flag) := by
  have hother := h.faceless.satisfies_succeeds flag
  cases flag with
  | commander => exact hlead
  | _ => exact hother

theorem matchText_orNull_succeeds {op : CompareOp} {value : Value} {content : Json}
    (hv : value.IsTextual) (hc : OrNull IsText content) :
    Succeeds (matchText op value content) := by
  rcases hc with rfl | hc
  · rcases hv with ⟨s, rfl⟩ | ⟨p, rfl⟩
    · exact succeeds_ok _
    · exact succeeds_ok _
  · exact matchText_succeeds op hv hc

/-- **A comparison with a value that fits is decided**, if it can be told whether the card can lead
a deck. -/
theorem IsOf.holds_succeeds (h : c.IsOf ms) (hms : IsRecord ms) (hlead : Succeeds c.canLead)
    {field : Field} {op : CompareOp} {value : Value} (hv : value.Fits field op) :
    Succeeds (c.holds field op value) := by
  have hother := h.faceless.holds_succeeds hv
  have hflag (field : Field) (hv : ∃ w, value = .keyword w ∧ (Flag.named? w).isSome = true) :
      Succeeds (matchFlag field op value c) := by
    obtain ⟨w, rfl, -⟩ := hv
    have hfound : Succeeds (c.hasFlag w) := by
      rw [hasFlag]
      split
      · exact h.satisfies_succeeds hlead _
      · exact succeeds_ok false
    exact hfound.map fun found => (found != (field == .not)) != (op == .ne)
  cases field with
  | name =>
    cases op with
    | _ => exact hother
  | oracle =>
    have htextual : value.IsTextual := hv
    have htexts := faceText_types hms (by decide : "oracle_text" ∈ faceTexts)
    have hany : Succeeds (anyFace c.oracleText c.faceOracleTexts (matchText op value)) := by
      rw [anyFace, h.faceOracleTexts]
      exact (matchText_succeeds op htextual h.faceless.oracleText).ite_bind (succeeds_pure true)
        (anyOf_succeeds fun t ht => matchText_orNull_succeeds htextual (htexts t ht))
    cases op with
    | ne => exact matchText_succeeds .ne htextual h.faceless.oracleText
    | _ => exact hany
  | is => exact hflag .is hv
  | not => exact hflag .not hv
  | _ => exact hother

/-- **A well-typed query is decided**, if it can be told whether the card can lead a deck. -/
theorem IsOf.matches_succeeds (h : c.IsOf ms) (hms : IsRecord ms) (hlead : Succeeds c.canLead)
    {q : Query} (hq : q.WellTyped) : Succeeds (q.matches c) := by
  have hother := h.faceless.matches_succeeds hq
  induction q with
  | compare field op value => exact h.holds_succeeds hms hlead hq.2.1
  | term content => exact hother
  | pattern p => exact hother
  | and left right ihl ihr =>
    exact (ihl hq.1 (h.faceless.matches_succeeds hq.1)).ite_bind
      (ihr hq.2 (h.faceless.matches_succeeds hq.2)) (succeeds_pure false)
  | or left right ihl ihr =>
    exact (ihl hq.1 (h.faceless.matches_succeeds hq.1)).ite_bind (succeeds_pure true)
      (ihr hq.2 (h.faceless.matches_succeeds hq.2))
  | not operand ih => exact (ih hq (h.faceless.matches_succeeds (q := operand) hq)).map (!·)

end Evaluation

end Card

namespace Query

/-- The query for cards that can lead a deck. -/
theorem parse_isCommander :
    parse "is:commander" = .ok (.compare .is .colon (.ofWord "commander")) := by
  have htokens : (tokenize "is:commander").toOption
      = some [⟨.comparison "is" .colon, "is:", 0, 3⟩, ⟨.word, "commander", 3, 12⟩] := by
    decide +kernel
  have hknown : (Flag.named? (Text.lower "commander")).isSome = true := by decide +kernel
  have hvalue : Value.ofWritten .is .colon "commander" = .ok (.ofWord "commander") := by
    have hkind : Value.ofWritten .is .colon "commander" = Value.flagOfText .is "commander" := rfl
    rw [hkind, Value.flagOfText, if_pos hknown]
  have hcompares : Grammar.Compares ⟨.comparison "is" .colon, "is:", 0, 3⟩
      ⟨.word, "commander", 3, 12⟩ .is .colon (.ofWord "commander") :=
    { named := ⟨"is", rfl, rfl⟩, admitted := by decide, isValue := rfl, adjacent := rfl
      typed := hvalue }
  exact Grammar.parse_of_compares htokens hcompares fun hcolor => absurd hcolor.1 (by decide)

/-- That query asks whether a card can lead a deck. -/
theorem matches_isCommander (c : Card) :
    (compare .is .colon (.ofWord "commander")).matches c
      = do return ((← c.canLead) != false) != false := by
  have hflag : Flag.named? (Text.lower (Text.lower "commander")) = some .commander := by
    decide +kernel
  have hfound : c.hasFlag (Text.lower "commander") = c.canLead := by
    rw [Card.hasFlag, hflag]
    rfl
  rw [← hfound]
  rfl

end Query

/-! ## Scanning -/

namespace Card

variable {ms : List (String × Json)}

/-- Where null stands before a text, it stands among the texts. -/
theorem null_mem_of_hidden {settles : String → Bool} {texts : List Json}
    (h : ∀ t ∈ texts, OrNull IsText t) (hhidden : Hidden settles texts) : .null ∈ texts := by
  induction texts with
  | nil => exact hhidden.elim
  | cons t texts ih =>
    obtain ⟨ht, htexts⟩ := List.forall_mem_cons.mp h
    rcases ht with rfl | ⟨s, rfl⟩
    · exact List.mem_cons_self
    · exact List.mem_cons_of_mem _ (ih htexts hhidden.2)

/-- Nothing is lost where no face writes null for its type line or its oracle text. -/
theorem IsOf.not_losesLeader {c : Card} (h : c.IsOf ms) (hms : IsRecord ms)
    (hlines : ∀ face ∈ facesOf ms, ¬ WritesNull "type_line" face)
    (htexts : ∀ face ∈ facesOf ms, ¬ WritesNull "oracle_text" face) : ¬ LosesLeader c ms := by
  have hnull {settles : String → Bool} {own : Json} {key : String} (hown : IsText own)
      (hkey : key ∈ faceTexts) (hnone : ∀ face ∈ facesOf ms, ¬ WritesNull key face) :
      ¬ Hidden settles (own :: (facesOf ms).map (faceText key)) := by
    intro hhidden
    have hmem := null_mem_of_hidden
      (List.forall_mem_cons.mpr ⟨.inr hown, IsOf.faceText_types hms hkey⟩) hhidden
    rcases List.mem_cons.mp hmem with heq | hmem
    · obtain ⟨s, hs⟩ := hown
      rw [hs] at heq
      cases heq
    · obtain ⟨face, hface, hwrites⟩ :=
        (null_mem_map_faceText hms.facesOf_isFace hkey).mp hmem
      exact hnone face hface hwrites
  rintro (hhidden | ⟨-, hhidden⟩)
  · exact hnull h.faceless.typeLine (by decide) hlines hhidden
  · exact hnull h.faceless.oracleText (by decide) htexts hhidden

/-- **Which records are scanned to the end.**  A record gives a card exactly if neither its colors
nor its type line are lost, and then every query is decided for the card exactly if it is not lost
whether the card can lead a deck. -/
theorem records_scanned (h : IsRecord ms) :
    ((∃ c, ofRecord (.object ms) = .ok c) ↔ ¬ LosesColors ms ∧ ¬ LosesTypeLine ms)
      ∧ ∀ c, ofRecord (.object ms) = .ok c →
        ((∀ text q, Query.parse text = .ok q → ∃ b, q.matches c = .ok b) ↔ ¬ LosesLeader c ms) := by
  have hrecord := ofRecord_endsIn h
  rw [← not_or]
  constructor
  · constructor
    · rintro ⟨c, hc⟩ hlost
      obtain ⟨e, he⟩ := hrecord.1 hlost
      rw [he] at hc
      cases hc
    · intro hkept
      obtain ⟨c, hc, -⟩ := hrecord.2 hkept
      exact ⟨c, hc⟩
  · intro c hc
    have hof : c.IsOf ms := hrecord.of_eq_ok hc
    constructor
    · intro hall hlost
      obtain ⟨e, he⟩ := (hof.canLead_endsIn h).1 hlost
      obtain ⟨b, hb⟩ := hall _ _ Query.parse_isCommander
      rw [Query.matches_isCommander, he] at hb
      cases hb
    · intro hkept text q hq
      obtain ⟨b, hb, -⟩ := (hof.canLead_endsIn h).2 hkept
      exact hof.matches_succeeds h ⟨b, hb⟩ (Query.parse_wellTyped hq)

/-- A record of two faces with no members but their names, and with null for most of its own. -/
def sparseRecord : List (String × Json) :=
  [("name", .string "Fire // Ice"), ("colors", .null), ("type_line", .null),
    ("cmc", .double (.zero false)),
    ("card_faces", .array [.object [("name", .string "Fire"), ("power", .null)],
      .object [("name", .null), ("mana_cost", .string "\x7b1\x7d\x7bU\x7d")]])]

theorem sparseRecord_isRecord : IsRecord sparseRecord where
  name := isText_string _
  faces := by
    refine .inr ⟨_, rfl, ?_⟩
    simp [IsFace, faceTexts, member, Json.find?, OrNull, isText_string]
  texts := by simp [recordTexts, member, sparseRecord, Json.find?, OrNull]
  lists := by simp [recordLists, member, sparseRecord, Json.find?, OrNull]
  manaValue := .inr ⟨_, rfl⟩
  legalities := .inl rfl

theorem sparseRecord_scanned : ∃ c, ofRecord (.object sparseRecord) = .ok c
    ∧ ∀ text q, Query.parse text = .ok q → ∃ b, q.matches c = .ok b := by
  have hnone (key : String) (hkey : key ∈ ["colors", "type_line", "oracle_text"]) :
      ∀ face ∈ facesOf sparseRecord, ¬ WritesNull key face := by
    simp only [List.mem_cons, List.not_mem_nil, or_false] at hkey
    rcases hkey with rfl | rfl | rfl <;>
      simp [facesOf, member, sparseRecord, Json.find?, WritesNull]
  obtain ⟨hbuilt, hdecided⟩ := records_scanned sparseRecord_isRecord
  have hcolors : ¬ LosesColors sparseRecord := by
    rintro ⟨-, face, hface, hwrites⟩
    exact hnone _ (by decide) face hface hwrites
  have htypeLine : ¬ LosesTypeLine sparseRecord := by
    rintro ⟨-, face, hface, hwrites⟩
    exact hnone _ (by decide) face hface hwrites
  obtain ⟨c, hc⟩ := hbuilt.mpr ⟨hcolors, htypeLine⟩
  have hof : c.IsOf sparseRecord := (ofRecord_endsIn sparseRecord_isRecord).of_eq_ok hc
  have hkept :=
    hof.not_losesLeader sparseRecord_isRecord (hnone _ (by decide)) (hnone _ (by decide))
  exact ⟨c, hc, (hdecided c hc).mpr hkept⟩

/-- A record with one face, which writes null for its colors. -/
def nullColorsRecord : List (String × Json) :=
  [("name", .string "x"),
    ("card_faces", .array [.object [("name", .string "a"), ("colors", .null)]])]

/-- **Not every record is scanned**: a face that writes null for its colors ends the scan. -/
theorem nullColorsRecord_aborts :
    IsRecord nullColorsRecord ∧ ¬ ∃ c, ofRecord (.object nullColorsRecord) = .ok c := by
  have hrecord : IsRecord nullColorsRecord :=
    { name := isText_string _
      faces := by
        refine .inr ⟨_, rfl, ?_⟩
        simp [IsFace, faceTexts, member, Json.find?, OrNull, isText_string]
      texts := by simp [recordTexts, member, nullColorsRecord, Json.find?, OrNull]
      lists := by simp [recordLists, member, nullColorsRecord, Json.find?, OrNull]
      manaValue := .inl rfl
      legalities := .inl rfl }
  refine ⟨hrecord, ?_⟩
  rintro ⟨c, hc⟩
  cases hc

end Card

end CardQuery

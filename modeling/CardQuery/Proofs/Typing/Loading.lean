import CardQuery.Proofs.Typing.Printed
import Mathlib.Data.List.Forall2

/-!
# Proofs/Typing/Loading — which numbers end the loading of a card

* `Card.ofRecord_succeeds_iff` — if a record gives a card, so does the record with other numbers,
  provided that each of them is converted.
* `scalars_converted` — a value without parts is converted unless it is a whole number that no
  finite double is near to, and only such a number ends the loading of a card.

A number is looked for in the record itself, and a stat in its front face as well; nothing else that
is read depends on these members (`OnlyNumbersDiffer`).
-/

namespace CardQuery

open Json

/-! ## Records that differ in their numbers -/

/-- The stats of a record. -/
def statMembers : List String := ["power", "toughness", "loyalty", "defense"]

/-- Two lists of members that agree apart from some keys. -/
def AgreeBut (keys : List String) (ms ns : List (String × Json)) : Prop :=
  ∀ key, key ∉ keys → Json.find? key ms = Json.find? key ns

/-- Two faces that agree apart from their stats. -/
def OnlyStatsDiffer (face face' : Json) : Prop :=
  ∃ fm gm, face = .object fm ∧ face' = .object gm ∧ AgreeBut statMembers fm gm

/-- **Two records that agree apart from the numbers in them** and in their faces. -/
structure OnlyNumbersDiffer (ms ns : List (String × Json)) : Prop where
  members : AgreeBut ("card_faces" :: "cmc" :: statMembers) ms ns
  faces : member "card_faces" ms = member "card_faces" ns ∨ ∃ fs gs,
    member "card_faces" ms = .array fs ∧ member "card_faces" ns = .array gs
      ∧ List.Forall₂ OnlyStatsDiffer fs gs

/-- The values that the numbers of a card are made of. -/
def numbersOf (ms : List (String × Json)) : List Json :=
  member "cmc" ms :: statMembers.map (given · ms)

section Agreement

variable {keys : List String} {key : String} {ms ns : List (String × Json)} {face face' front : Json}
  {fs gs : List Json}

theorem AgreeBut.member (h : AgreeBut keys ms ns) (hkey : key ∉ keys) :
    member key ns = member key ms := by
  rw [CardQuery.member, CardQuery.member, h key hkey]

theorem AgreeBut.get (h : AgreeBut keys ms ns) (hkey : key ∉ keys) :
    Json.get key (.object ns) = Json.get key (.object ms) := by
  rw [get_object, get_object, h.member hkey]

theorem AgreeBut.getOr (h : AgreeBut keys ms ns) (hkey : key ∉ keys) (default : Json) :
    Json.getOr (.object ns) key default = Json.getOr (.object ms) key default := by
  have hgetOr (members : List (String × Json)) : Json.getOr (.object members) key default
      = .ok ((Json.find? key members).getD default) := rfl
  rw [hgetOr, hgetOr, h key hkey]

theorem AgreeBut.require (h : AgreeBut keys ms ns) (hkey : key ∉ keys) :
    Json.require key (.object ns) = Json.require key (.object ms) := by
  have hmembers (members : List (String × Json)) :
      (Json.object members).asMembers = .ok members := rfl
  rw [Json.require, Json.require, hmembers, hmembers, ok_bind, ok_bind, h key hkey]

/-- What is read of a face besides its stats. -/
theorem OnlyStatsDiffer.reads (h : OnlyStatsDiffer face face') (hkey : key ∉ statMembers) :
    face'.get key = face.get key ∧ face'.require key = face.require key
      ∧ ∀ default, face'.getOr key default = face.getOr key default := by
  obtain ⟨fm, gm, rfl, rfl, hagree⟩ := h
  exact ⟨hagree.get hkey, hagree.require hkey, hagree.getOr hkey⟩

theorem mapM_eq_of_forall₂ {α β : Type} {R : α → α → Prop} {f : α → Except Fault β}
    {xs ys : List α} (h : List.Forall₂ R xs ys) (hf : ∀ x y, R x y → f y = f x) :
    ys.mapM f = xs.mapM f := by
  induction h with
  | nil => rfl
  | cons hhead _ ih => rw [List.mapM_cons, List.mapM_cons, ih, hf _ _ hhead]

theorem filterMapM_eq_of_forall₂ {α β : Type} {R : α → α → Prop} {f : α → Except Fault (Option β)}
    {xs ys : List α} (h : List.Forall₂ R xs ys) (hf : ∀ x y, R x y → f y = f x) :
    ys.filterMapM f = xs.filterMapM f := by
  induction h with
  | nil => rfl
  | cons hhead _ ih => rw [List.filterMapM_cons, List.filterMapM_cons, ih, hf _ _ hhead]

section Faces

variable (h : List.Forall₂ OnlyStatsDiffer fs gs)
include h

theorem isEmpty_eq_of_faces : gs.isEmpty = fs.isEmpty := by
  cases h <;> rfl

theorem getOr_eq_of_faces (hkey : key ∉ statMembers) (default : Json) :
    gs.mapM (·.getOr key default) = fs.mapM (·.getOr key default) :=
  mapM_eq_of_forall₂ h fun _ _ hface => (hface.reads hkey).2.2 default

theorem faceNames_eq_of_faces : gs.filterMapM faceName? = fs.filterMapM faceName? := by
  refine filterMapM_eq_of_forall₂ h fun face face' hface => ?_
  obtain ⟨hget, hrequire, -⟩ := hface.reads (by decide : "name" ∉ statMembers)
  rw [faceName?, faceName?, hget, hrequire]

theorem ownOrJoinedTexts_eq_of_faces (own : Json) :
    ownOrJoinedTexts own gs = ownOrJoinedTexts own fs := by
  have htexts : joinedTexts gs = joinedTexts fs := by
    rw [joinedTexts, joinedTexts]
    congr 1
    refine filterMapM_eq_of_forall₂ h fun face face' hface => ?_
    rw [(hface.reads (by decide : "oracle_text" ∉ statMembers)).1]
  rw [ownOrJoinedTexts, ownOrJoinedTexts, htexts, isEmpty_eq_of_faces h]

theorem ownOrJoinedColors_eq_of_faces (own : Json) :
    ownOrJoinedColors own gs = ownOrJoinedColors own fs := by
  have hcolors : joinedColors gs = joinedColors fs := by
    rw [joinedColors, joinedColors]
    congr 1
    refine mapM_eq_of_forall₂ h fun face face' hface => ?_
    rw [(hface.reads (by decide : "colors" ∉ statMembers)).2.2]
  unfold ownOrJoinedColors
  rw [hcolors, isEmpty_eq_of_faces h]

theorem ownOrJoinedLines_eq_of_faces (own : Json) :
    ownOrJoinedLines own gs = ownOrJoinedLines own fs := by
  rw [ownOrJoinedLines, ownOrJoinedLines, getOr_eq_of_faces h (by decide)]

end Faces

/-- **The faces of a record with other numbers are read**, and differ in their stats. -/
theorem OnlyNumbersDiffer.faces_read (h : OnlyNumbersDiffer ms ns)
    (hfront : frontOf ((CardQuery.member "card_faces" ms).orElse (.array []))
      = .ok (.object (frontMembers ms)))
    (hitems : ((CardQuery.member "card_faces" ms).orElse (.array [])).items = .ok (facesOf ms))
    (hobjects : ∀ face ∈ facesOf ms, ∃ fm, face = .object fm) :
    frontOf ((CardQuery.member "card_faces" ns).orElse (.array []))
        = .ok (.object (frontMembers ns))
      ∧ ((CardQuery.member "card_faces" ns).orElse (.array [])).items = .ok (facesOf ns)
      ∧ List.Forall₂ OnlyStatsDiffer (facesOf ms) (facesOf ns)
      ∧ OnlyStatsDiffer (.object (frontMembers ms)) (.object (frontMembers ns)) := by
  have hself (fm : List (String × Json)) : OnlyStatsDiffer (.object fm) (.object fm) :=
    ⟨fm, fm, rfl, rfl, fun _ _ => rfl⟩
  rcases h.faces with heq | ⟨fs, gs, hfs, hgs, hfaces⟩
  · have hsame : facesOf ns = facesOf ms := by rw [facesOf, facesOf, heq]
    rw [frontMembers, hsame, ← frontMembers, ← heq]
    refine ⟨hfront, hitems, List.forall₂_same.mpr fun face hface => ?_, hself _⟩
    obtain ⟨fm, rfl⟩ := hobjects face hface
    exact hself fm
  · have hms : facesOf ms = fs := by rw [facesOf, hfs]
    have hns : facesOf ns = gs := by rw [facesOf, hgs]
    rw [frontMembers, frontMembers, hms, hns, hgs]
    cases hfaces with
    | nil => exact ⟨rfl, rfl, .nil, hself []⟩
    | cons hhead htail =>
      obtain ⟨fm, gm, rfl, rfl, hagree⟩ := hhead
      have hhead : OnlyStatsDiffer (.object fm) (.object gm) := ⟨fm, gm, rfl, rfl, hagree⟩
      exact ⟨rfl, rfl, .cons hhead htail, hhead⟩

end Agreement

/-! ## Loading -/

namespace Card

section Loading

variable {ms ns : List (String × Json)} {c : Card}

/-- A stat of a record is read exactly if what is given for it is converted. -/
theorem statFrom_succeeds_iff {key : String} :
    Succeeds (statFrom (.object ns) (.object (frontMembers ns)) key)
      ↔ Succeeds (statOf (given key ns)) := by
  rw [statFrom, fromEither_eq_given, ok_bind]
  exact (succeeds_bind_iff fun x => iff_true_intro (succeeds_pure _)).trans (iff_of_eq (and_true _))

/-- **A record with other numbers gives a card if they are converted.** -/
theorem ofRecord_succeeds_iff (hc : ofRecord (.object ms) = .ok c)
    (h : OnlyNumbersDiffer ms ns) :
    Succeeds (ofRecord (.object ns)) ↔ Succeeds (floatOf (member "cmc" ns))
      ∧ ∀ key ∈ statMembers, Succeeds (statOf (given key ns)) := by
  unfold ofRecord at hc ⊢
  simp only [bind_eq_ok_iff, get_object, ok_bind] at hc
  obtain ⟨front, hfront, faces, hitems, oracle, horacle, colors, hcolors, name, hname, line, hline,
    cost, hcost, artist, hartist, names, hnames, lines, hlines, texts, htexts, keywords, hkeywords,
    games, hgames, finishes, hfinishes, hc⟩ := hc
  obtain ⟨colors, hset, identity, hidentity, produced, hproduced, -, -, -, -, -, -, -, -, -, -,
    year, hyear, rarity, hrarity, set, hset', legalities, hlegalities, hc⟩ := hc
  obtain ⟨rfl, rfl, hobjects⟩ := faces_of_read hfront hitems hlines
  obtain ⟨hfront', hitems', hfaces, hheads⟩ := h.faces_read hfront hitems hobjects
  have hmember {key : String} (hkey : key ∉ "card_faces" :: "cmc" :: statMembers) :
      member key ns = member key ms := h.members.member hkey
  have hname' := h.members.require
    (by decide : "name" ∉ "card_faces" :: "cmc" :: statMembers)
  have hartist' : fromEither (.object ns) (.object (frontMembers ns)) "artist"
      = fromEither (.object ms) (.object (frontMembers ms)) "artist" := by
    rw [fromEither, fromEither, h.members.get (by decide), (hheads.reads (by decide)).1]
  have hcost' (own : Json) : ownOrFrontCost own (.object (frontMembers ns))
      = ownOrFrontCost own (.object (frontMembers ms)) := by
    rw [ownOrFrontCost, ownOrFrontCost, (hheads.reads (by decide)).1]
  simp (disch := decide) only [get_object, ok_bind, hmember, hfront', hitems',
    ownOrJoinedTexts_eq_of_faces hfaces, horacle, ownOrJoinedColors_eq_of_faces hfaces, hcolors,
    hname', hname, ownOrJoinedLines_eq_of_faces hfaces, hline, hcost', hcost, hartist', hartist,
    faceNames_eq_of_faces hfaces, hnames, getOr_eq_of_faces hfaces, hlines, htexts, hkeywords,
    hgames, hfinishes, hset, hidentity, hproduced, hyear, hrarity, hset', hlegalities]
  have hstats : (∀ key ∈ statMembers, Succeeds (statOf (given key ns)))
      ↔ Succeeds (statOf (given "power" ns)) ∧ Succeeds (statOf (given "toughness" ns))
        ∧ Succeeds (statOf (given "loyalty" ns)) ∧ Succeeds (statOf (given "defense" ns))
        ∧ True := by
    simp only [statMembers, List.forall_mem_cons, List.not_mem_nil, false_imp_iff, implies_true]
  rw [hstats, ← statFrom_succeeds_iff, ← statFrom_succeeds_iff, ← statFrom_succeeds_iff,
    ← statFrom_succeeds_iff]
  exact succeeds_bind_iff fun value => succeeds_bind_iff fun power =>
    succeeds_bind_iff fun toughness => succeeds_bind_iff fun loyalty =>
    succeeds_bind_iff fun defense => iff_true_intro (succeeds_pure _)

end Loading

end Card

/-! ## Conversions -/

/-- A computation succeeds exactly if the condition of its fault does not hold. -/
theorem EndsIn.succeeds_iff {α : Type} {x : Except Fault α} {fails : Prop} {P : α → Prop}
    (h : EndsIn x fails P) : Succeeds x ↔ ¬ fails := by
  constructor
  · rintro ⟨a, ha⟩ hf
    obtain ⟨e, he⟩ := h.1 hf
    rw [ha] at he
    cases he
  · intro hn
    obtain ⟨a, ha, -⟩ := h.2 hn
    exact ⟨a, ha⟩

/-- **Which values are converted.**  A value without parts gives a number or none by both
conversions, unless it is huge, and then both find no room for it.  A record that gives a card still
gives one with other values for its numbers and for the stats of its faces, exactly if none of those
that are read is huge. -/
theorem scalars_converted (j : Json) (hj : j.IsScalar) :
    ((∃ x, floatOf j = .ok x) ↔ ¬ j.IsHuge) ∧ ((∃ x, statOf j = .ok x) ↔ ¬ j.IsHuge)
      ∧ (j.IsHuge → floatOf j = .error .tooLarge ∧ statOf j = .error .tooLarge)
      ∧ ∀ ms ns c, Card.ofRecord (.object ms) = .ok c → OnlyNumbersDiffer ms ns →
        (∀ j ∈ numbersOf ns, j.IsScalar) →
        ((∃ d, Card.ofRecord (.object ns) = .ok d) ↔ ∀ j ∈ numbersOf ns, ¬ j.IsHuge) := by
  refine ⟨(floatOf_endsIn_of_isScalar hj).succeeds_iff, (statOf_endsIn_of_isScalar hj).succeeds_iff,
    fun h => ⟨floatOf_of_huge h, statOf_of_huge h⟩, fun ms ns c hc h hscalar => ?_⟩
  rw [numbersOf, List.forall_mem_cons, List.forall_mem_map] at hscalar ⊢
  obtain ⟨hvalue, hstats⟩ := hscalar
  refine (Card.ofRecord_succeeds_iff hc h).trans (and_congr ?_ ?_)
  · exact (floatOf_endsIn_of_isScalar hvalue).succeeds_iff
  · exact forall₂_congr fun key hkey =>
      (statOf_endsIn_of_isScalar (hstats key hkey)).succeeds_iff

/-- A record with a face. -/
def facedRecord (members faceMembers : List (String × Json)) : List (String × Json) :=
  ("name", .string "Fire") :: ("card_faces", .array [.object faceMembers]) :: members

/-- A record without numbers, and the same with two numbers. -/
theorem facedRecord_converted :
    let numbered := facedRecord [("cmc", .int (-2))] [("power", .bool true)]
    (∃ x, statOf (.string "x٤") = .ok x) ∧ OnlyNumbersDiffer (facedRecord [] []) numbered
      ∧ ∃ d, Card.ofRecord (.object numbered) = .ok d := by
  intro numbered
  obtain ⟨-, hconverted, -, hloaded⟩ := scalars_converted (.string "x٤") trivial
  have hdiffer : OnlyNumbersDiffer (facedRecord [] []) numbered :=
    { members := fun key hkey => by
        simp only [statMembers, List.mem_cons, not_or] at hkey
        simp [numbered, facedRecord, Json.find?, Ne.symm hkey.1, Ne.symm hkey.2.1]
      faces := by
        refine .inr ⟨_, _, rfl, rfl, .cons ⟨_, _, rfl, rfl, fun key hkey => ?_⟩ .nil⟩
        simp only [statMembers, List.mem_cons, not_or] at hkey
        simp [Json.find?, Ne.symm hkey.1] }
  have hok : (Card.ofRecord (.object (facedRecord [] []))).toBool = true := by decide +kernel
  cases hc : Card.ofRecord (.object (facedRecord [] [])) with
  | error f =>
    rw [hc] at hok
    cases hok
  | ok c =>
    have hscalar : ∀ j ∈ numbersOf numbered, j.IsScalar := by
      simp only [numbersOf, statMembers, List.map_cons, List.forall_mem_cons]
      exact ⟨trivial, trivial, trivial, trivial, trivial, List.forall_mem_nil _⟩
    have hsmall : ∀ j ∈ numbersOf numbered, ¬ j.IsHuge := by
      simp only [numbersOf, statMembers, List.map_cons, List.forall_mem_cons]
      have htwo : ¬ (Json.int (-2)).IsHuge := by
        rw [Json.IsHuge]
        decide +kernel
      exact ⟨htwo, id, id, id, id, List.forall_mem_nil _⟩
    exact ⟨hconverted.mpr id, hdiffer,
      (hloaded _ _ c hc hdiffer hscalar).mpr hsmall⟩

/-- **Not every whole number is converted**: one with three hundred and ten digits has no room, and
ends the loading of a card. -/
theorem manyDigits_not_converted :
    (Json.int (10 ^ 309)).IsScalar
      ∧ (¬ ∃ x, floatOf (.int (10 ^ 309)) = .ok x) ∧ (¬ ∃ x, statOf (.int (10 ^ 309)) = .ok x)
      ∧ ¬ ∃ c, Card.ofRecord (.object [("name", .string "x"), ("cmc", .int (10 ^ 309))])
        = .ok c := by
  have hhuge : (Json.int (10 ^ 309)).IsHuge := by
    rw [Json.IsHuge]
    decide +kernel
  refine ⟨trivial, ?_, ?_, ?_⟩
  · rw [floatOf_of_huge hhuge]
    nofun
  · rw [statOf_of_huge hhuge]
    nofun
  · have hlost : (Card.ofRecord (.object
        [("name", .string "x"), ("cmc", .int (10 ^ 309))])).toBool = false := by decide +kernel
    rintro ⟨c, hc⟩
    rw [hc] at hlost
    cases hlost

end CardQuery

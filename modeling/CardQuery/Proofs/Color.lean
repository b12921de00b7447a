import CardQuery.Color
import CardQuery.Proofs.Number.Numeral
import CardQuery.Proofs.Text.Context
import CardQuery.Proofs.Text.UpperCase

/-!
# Proofs/Color — which colors are read from a text

* `ColorSet.letters_read` — of a text that is no name, the letters of the colors count in either
  case, in any order and however often, and nothing else does.

The text is lowered before it is raised, and a color is read from whatever comes to its letter by
both steps.  For white that is one more character, the `ẘ`, which raises to a `W` and a ring.
-/

namespace CardQuery

open Text

namespace Color

/-- **The characters that a color is read from.** -/
def characters : Color → List Char
  | white => ['W', 'w', 'ẘ']
  | blue => ['U', 'u']
  | black => ['B', 'b']
  | red => ['R', 'r']
  | green => ['G', 'g']

/-- The characters of a color are its letter in either case, and the ringed letter for white. -/
theorem mem_characters_iff {k : Color} {c : Char} :
    c ∈ k.characters ↔ c = k.letter ∨ c = k.letter.toLower ∨ k = .white ∧ c = 'ẘ' := by
  cases k <;> simp [characters, letter]

/-- Nothing but the characters of a color comes to its letter, as the tables of case have it. -/
theorem sources_letter (k : Color) : ∀ n ∈ upperSources k.letter.toNat,
    ∀ m ∈ mapSources lowerRuns n, m ∈ k.characters.map Char.toNat := by
  cases k <;> decide +kernel

/-- What raises to the letter of a color is lowered from by the table alone. -/
theorem sources_plain (k : Color) : ∀ n ∈ upperSources k.letter.toNat,
    n ∉ ['ς', 'σ', 'i', '\u0307', '\x00'].map Char.toNat := by
  cases k <;> decide +kernel

/-- The characters of a color do come to its letter. -/
theorem raised_lowered (k : Color) : ∀ c ∈ k.characters, c ≠ 'Σ' ∧ isBlank c = false
    ∧ k.letter ∈ upperChars (lowerAt [] c []) := by
  -- The list is gone through, and not all characters.
  have hall : (k.characters.all fun c => decide (c ≠ 'Σ' ∧ isBlank c = false
      ∧ k.letter ∈ upperChars (lowerAt [] c []))) = true := by
    cases k <;> decide +kernel
  exact fun c hc => of_decide_eq_true (List.all_eq_true.mp hall c hc)

/-- **A text comes to the letter of a color**, by lowering and raising it, if it holds one of the
color's characters. -/
theorem letter_mem_upper_lower_iff (k : Color) (s : String) :
    k.letter ∈ (upper (lower s)).toList ↔ ∃ c ∈ k.characters, c ∈ s.toList := by
  rw [toList_upper, toList_lower, upperChars, List.mem_flatMap]
  constructor
  · rintro ⟨d, hd, hletter⟩
    obtain ⟨c, hc, before, after, hlower⟩ := exists_of_mem_lowerFrom hd
    have hsource : d.toNat ∈ upperSources k.letter.toNat :=
      mem_upperSources hletter (by cases k <;> decide)
    have hplain : d ∉ ['ς', 'σ', 'i', '\u0307', '\x00'] := fun h =>
      k.sources_plain d.toNat hsource (List.mem_map_of_mem h)
    obtain ⟨c', hc', hcode⟩ := List.mem_map.mp
      (k.sources_letter d.toNat hsource c.toNat (mem_mapSources_of_mem_lowerAt hlower hplain))
    exact ⟨c', hc', by rwa [Char.toNat_inj.mp hcode]⟩
  · rintro ⟨c, hc, hmem⟩
    obtain ⟨hsigma, -, hletter⟩ := k.raised_lowered c hc
    obtain ⟨d, hd, hletter⟩ := List.mem_flatMap.mp hletter
    refine ⟨d, mem_lowerFrom hmem fun before after => ?_, hletter⟩
    rwa [lowerAt_of_ne hsigma]

/-- Trimming drops no character of a color. -/
theorem mem_trim_iff {k : Color} {c : Char} (hc : c ∈ k.characters) (s : String) :
    c ∈ (trim s).toList ↔ c ∈ s.toList := by
  rw [trim, String.toList_ofList]
  constructor
  · intro h
    exact (List.dropWhile_sublist _).subset
      (List.mem_reverse.mp ((List.dropWhile_sublist _).subset (List.mem_reverse.mp h)))
  · exact fun h => mem_trimBy h (k.raised_lowered c hc).2.1

end Color

namespace ColorSet

/-- Sets that hold the same colors are the same. -/
theorem eq_of_contains {s t : ColorSet} (h : ∀ k, s.contains k = true ↔ t.contains k = true) :
    s = t := by
  have hpred (s : ColorSet) : ofPred s.contains = s := rfl
  have hsame : s.contains = t.contains := funext fun k => Bool.eq_iff_iff.mpr (h k)
  rw [← hpred s, ← hpred t, hsame]

/-- Whether a text is none of the names of colors and groups. -/
def IsUnnamed (s : String) : Prop := named? (lower (trim s)) = none

instance (s : String) : Decidable (IsUnnamed s) := inferInstanceAs (Decidable (_ = _))

/-- Of a text that is no name, the characters of the colors are read. -/
theorem contains_read_iff {s : String} (hs : IsUnnamed s) (k : Color) :
    (read s).contains k = true ↔ ∃ c ∈ k.characters, c ∈ s.toList := by
  have hnone : named? (lower (trim s)) = none := hs
  have hread : read s = ofLetters (upper (lower (trim s))).toList := by
    simp only [read, hnone]
  rw [hread, ofLetters, contains_ofPred, List.contains_iff_mem, k.letter_mem_upper_lower_iff]
  exact exists_congr fun c => and_congr_right fun hc => k.mem_trim_iff hc s

/-- **The letters that are read.**  From a text that is no name of colors a color is read exactly if
its letter stands in it, in either case, or if it is white and a ringed `ẘ` does.  Texts with the
same of these characters are read alike, in whatever order and however often they hold them, and
whatever else they hold. -/
theorem letters_read {s : String} (hs : IsUnnamed s) :
    (∀ k : Color, (read s).contains k = true ↔
      k.letter ∈ s.toList ∨ k.letter.toLower ∈ s.toList ∨ k = .white ∧ 'ẘ' ∈ s.toList)
    ∧ ∀ t, IsUnnamed t →
      (∀ k : Color, ∀ c ∈ k.characters, c ∈ t.toList ↔ c ∈ s.toList) → read t = read s := by
  constructor
  · intro k
    rw [contains_read_iff hs]
    constructor
    · rintro ⟨c, hc, hmem⟩
      rcases Color.mem_characters_iff.mp hc with rfl | rfl | ⟨rfl, rfl⟩
      · exact .inl hmem
      · exact .inr (.inl hmem)
      · exact .inr (.inr ⟨rfl, hmem⟩)
    · rintro (h | h | ⟨rfl, h⟩)
      · exact ⟨_, Color.mem_characters_iff.mpr (.inl rfl), h⟩
      · exact ⟨_, Color.mem_characters_iff.mpr (.inr (.inl rfl)), h⟩
      · exact ⟨_, Color.mem_characters_iff.mpr (.inr (.inr ⟨rfl, rfl⟩)), h⟩
  · intro t ht hsame
    refine eq_of_contains fun k => ?_
    rw [contains_read_iff ht, contains_read_iff hs]
    exact exists_congr fun c => and_congr_right fun hc => hsame k c hc

/-- Two letters, one of them twice, and the same letters among other characters. -/
theorem looseLetters_read : (read "wwG").contains .white = true ∧ read " Gx1w" = read "wwG" := by
  have hletters := letters_read (s := "wwG") (by decide +kernel)
  refine ⟨(hletters.1 .white).mpr (by decide), hletters.2 " Gx1w" (by decide +kernel) ?_⟩
  intro k
  have hall : (k.characters.all fun c =>
      decide (c ∈ " Gx1w".toList ↔ c ∈ "wwG".toList)) = true := by
    cases k <;> decide +kernel
  exact fun c hc => of_decide_eq_true (List.all_eq_true.mp hall c hc)

/-- **A character that is no letter of a color is not passed over**: the ringed `ẘ` is read as
white. -/
theorem ringedLetter_read : IsUnnamed "ẘ" ∧ (read "ẘ").contains .white = true
    ∧ Color.letter .white ∉ "ẘ".toList ∧ (Color.letter .white).toLower ∉ "ẘ".toList := by
  decide +kernel

end ColorSet

end CardQuery

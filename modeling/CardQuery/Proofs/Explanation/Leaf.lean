import CardQuery.Proofs.Explanation.Heading
import CardQuery.Proofs.Explanation.Outline
import CardQuery.Proofs.Number.Notation

/-!
# Proofs/Explanation/Leaf — where the explanation of a comparison ends

A value whose text has neither a space nor a parenthesis is explained by one word (`Value.IsPlain`),
so that a comparison is explained by a heading and one word.

* `Comparison.eq_of_append` — whatever stands behind the explanation of a comparison, the heading and
  the word can be read off it.
-/

namespace CardQuery

/-! ## Plain words -/

/-- Whether a character may stand in a plain word. -/
def isPlainChar (c : Char) : Bool := c != ' ' && c != '(' && c != ')'

/-- A text without spaces and parentheses. -/
def IsPlain (s : List Char) : Prop := ∀ c ∈ s, isPlainChar c = true

instance : DecidablePred IsPlain := fun s =>
  decidable_of_iff (s.all isPlainChar = true) List.all_eq_true

/-- What does not go on with a plain word. -/
def Stops (s : List Char) : Prop := ∀ c ∈ s.head?, isPlainChar c = false

section Words

variable {s t r r' : List Char}

theorem IsPlain.append (hs : IsPlain s) (ht : IsPlain t) : IsPlain (s ++ t) :=
  List.forall_mem_append.mpr ⟨hs, ht⟩

theorem IsPlain.cons {c : Char} (hc : isPlainChar c = true) (hs : IsPlain s) : IsPlain (c :: s) :=
  List.forall_mem_cons.mpr ⟨hc, hs⟩

theorem IsPlain.nil : IsPlain [] := List.forall_mem_nil _

theorem stops_nil : Stops [] := fun _ hc => nomatch hc

theorem stops_cons {c : Char} (hc : isPlainChar c = false) : Stops (c :: s) := fun d hd => by
  obtain rfl : c = d := Option.some.inj hd
  exact hc

/-- Two runs of characters of a kind that end at characters not of the kind. -/
theorem append_inj_of_stop {p : Char → Bool} (hs : ∀ c ∈ s, p c = true) (ht : ∀ c ∈ t, p c = true)
    (hr : ∀ c ∈ r.head?, p c = false) (hr' : ∀ c ∈ r'.head?, p c = false)
    (h : s ++ r = t ++ r') : s = t ∧ r = r' := by
  have hstop : ∀ {r : List Char}, (∀ c ∈ r.head?, p c = false) → r.takeWhile p = [] := by
    intro r hr
    rcases r with _ | ⟨c, r⟩
    · rfl
    · simp [hr c rfl]
  have hword : (s ++ r).takeWhile p = (t ++ r').takeWhile p := by rw [h]
  rw [List.takeWhile_append_of_pos hs, List.takeWhile_append_of_pos ht, hstop hr, hstop hr',
    List.append_nil, List.append_nil] at hword
  subst hword
  exact ⟨rfl, List.append_cancel_left h⟩

/-- **A plain word ends where the next one does not go on with it.** -/
theorem IsPlain.eq_of_append (hs : IsPlain s) (ht : IsPlain t) (hr : Stops r) (hr' : Stops r')
    (h : s ++ r = t ++ r') : s = t ∧ r = r' := append_inj_of_stop hs ht hr hr' h

/-- Numbers are plain. -/
theorem IsNumeral.isPlain (h : IsNumeral s) : IsPlain s := by
  intro c hc
  have hchar := h c hc
  rw [isPlainChar, Bool.and_eq_true, Bool.and_eq_true]
  refine ⟨⟨?_, ?_⟩, ?_⟩ <;>
  · refine bne_iff_ne.mpr ?_
    rintro rfl
    exact absurd hchar (by decide)

end Words

/-! ## Values -/

/-- A value whose text, word or source has neither a space nor a parenthesis. -/
def Value.IsPlain : Value → Prop
  | text content => CardQuery.IsPlain content.text.toList
  | keyword word => CardQuery.IsPlain word.toList
  | pattern p => CardQuery.IsPlain p.source.toList
  | number _ | colors _ => True

instance : DecidablePred Value.IsPlain := fun v =>
  match v with
  | .text content => inferInstanceAs (Decidable (IsPlain content.text.toList))
  | .keyword word => inferInstanceAs (Decidable (IsPlain word.toList))
  | .pattern p => inferInstanceAs (Decidable (IsPlain p.source.toList))
  | .number _ | .colors _ => .isTrue trivial

theorem Double.text_isPlain (x : Double) : IsPlain x.text.toList := by
  cases x with
  | nan => exact .cons rfl (.cons rfl (.cons rfl .nil))
  | infinite negative =>
    cases negative
    · exact .cons rfl (.cons rfl (.cons rfl .nil))
    · exact .cons rfl (.cons rfl (.cons rfl (.cons rfl .nil)))
  | finite negative significand shift fits =>
    have hplain : IsPlain (Layout.plain.write (.finite negative significand shift fits)) :=
      (Layout.plain.write_isNumeral _).isPlain
    exact String.toList_ofList ▸ hplain

theorem Double.inWords_isPlain (x : Double) : IsPlain x.inWords.toList := by
  rw [inWords]
  split
  · exact (IsNumeral.toString _).isPlain
  · exact x.text_isPlain

theorem ColorSet.symbols_isPlain (s : ColorSet) : IsPlain s.symbols.toList := by
  rw [symbols]
  split
  · exact .cons rfl (.cons rfl (.cons rfl .nil))
  · intro c hc
    rw [String.toList_ofList] at hc
    obtain ⟨letter, hletter, hc⟩ := List.mem_flatMap.mp hc
    obtain ⟨color, -, rfl⟩ := List.mem_map.mp hletter
    have hsymbol : IsPlain ['\x7b', color.letter, '\x7d'] := by
      cases color <;> exact .cons rfl (.cons rfl (.cons rfl .nil))
    exact hsymbol c hc

theorem Pattern.mem_flagLetters {p : Pattern} {c : Char} (hc : c ∈ p.flags.toList) :
    c ∈ Regex.flagLetters := by
  have hcompiled := p.compiled
  rw [Regex.compile] at hcompiled
  split at hcompiled
  · cases hcompiled
  · rename_i hknown
    simpa using List.find?_eq_none.mp hknown c hc

theorem Pattern.flags_isPlain (p : Pattern) : IsPlain p.flags.toList := fun c hc =>
  have hletters : IsPlain Regex.flagLetters := by decide
  hletters c (mem_flagLetters hc)

/-- **A plain value is explained by a plain word.** -/
theorem Value.IsPlain.word {v : Value} (h : v.IsPlain) : CardQuery.IsPlain v.word := by
  cases v with
  | text content => exact h.append (.cons rfl .nil)
  | number x => exact x.inWords_isPlain
  | keyword word => exact h
  | colors set => exact set.symbols_isPlain
  | pattern p => exact h.append (.cons rfl p.flags_isPlain)

/-! ## Comparisons -/

/-- A comparison of a field with a value. -/
structure Comparison where
  field : Field
  op : CompareOp
  value : Value

namespace Comparison

/-- A comparison that can be read off its explanation: it is well typed, and its value is plain. -/
structure IsLegible (c : Comparison) : Prop where
  admitted : c.op ∈ c.field.operators
  typed : c.value.Fits c.field c.op
  plain : c.value.IsPlain

/-- The heading that a comparison is explained by. -/
def heading (c : Comparison) : Heading :=
  (Heading.mk c.field c.op (c.value.form c.field.kind)).canonical

/-- A comparison in words. -/
def text (c : Comparison) : List Char := (explainComparison c.field c.op c.value).toList

variable {a b c : Comparison} {r r' : List Char}

theorem text_eq (c : Comparison) : c.text = c.heading.text ++ c.value.word := by
  rw [heading, Heading.text_canonical]
  exact toList_explainComparison c.field c.op c.value

theorem form_suits (h : c.value.Fits c.field c.op) :
    (c.value.form c.field.kind).suits c.field.kind = true := by
  cases hk : c.field.kind <;> rw [Value.Fits, hk] at h <;> dsimp only at h
  case text | discrete | list => rcases h with ⟨s, hv⟩ | ⟨p, hv⟩ <;> rw [hv] <;> rfl
  case color => rcases h with ⟨x, hv⟩ | ⟨set, hv⟩ <;> rw [hv] <;> rfl
  case numeric => rcases h with ⟨x, hv⟩ | ⟨hv, -⟩ <;> rw [hv] <;> rfl
  case date | legality | flag =>
    obtain ⟨w, h⟩ := h
    have hv : c.value = .keyword w := by grind
    rw [hv]
    rfl
  case rarity =>
    obtain ⟨r, hv⟩ := h
    rw [hv]
    rfl

/-- No card is said to be "not". -/
theorem word_ne_not (h : c.IsLegible) (hfield : c.heading.field = .is) :
    c.value.word ≠ "not".toList := by
  have hfits := h.typed
  rw [Value.Fits, Heading.kind_of_canonical hfield] at hfits
  obtain ⟨w, hw, hknown⟩ := hfits
  rw [hw]
  intro hnot
  have hw : w = "not" := String.toList_injective hnot
  rw [hw] at hknown
  exact absurd hknown (by decide +kernel)

theorem heading_mem (h : c.IsLegible) : c.heading ∈ Heading.all ∨ c.heading = Heading.isNot :=
  Heading.canonical_mem h.admitted (form_suits h.typed)

/-- What a card is and what a card is not are told apart. -/
theorem append_ne (ha : a.IsLegible) (hall : a.heading ∈ Heading.all) (hr : Stops r)
    (hnot : b.heading = Heading.isNot) : a.text ++ r ≠ b.text ++ r' := by
  intro h
  rw [text_eq, text_eq, hnot, Heading.text_isNot, List.append_assoc, List.append_assoc,
    List.append_assoc] at h
  have his : a.heading = Heading.isHeading := Heading.eq_of_append hall (by decide +kernel) h
  rw [his] at h
  have hword : a.value.word = "not".toList :=
    (ha.plain.word.eq_of_append (by decide) hr (stops_cons rfl) (List.append_cancel_left h)).1
  exact word_ne_not ha (by rw [his]; rfl) hword

/-- **The heading and the word can be read off an explanation**, whatever stands behind it. -/
theorem eq_of_append (ha : a.IsLegible) (hb : b.IsLegible) (hr : Stops r) (hr' : Stops r')
    (h : a.text ++ r = b.text ++ r') :
    a.heading = b.heading ∧ a.value.word = b.value.word ∧ r = r' := by
  have hheading : a.heading = b.heading := by
    rcases heading_mem ha with hall | hnot
    · rcases heading_mem hb with hall' | hnot'
      · rw [text_eq, text_eq, List.append_assoc, List.append_assoc] at h
        exact Heading.eq_of_append hall hall' h
      · exact absurd h (append_ne ha hall hr hnot')
    · rcases heading_mem hb with hall' | hnot'
      · exact absurd h.symm (append_ne hb hall' hr' hnot)
      · exact hnot.trans hnot'.symm
  rw [text_eq, text_eq, hheading, List.append_assoc, List.append_assoc] at h
  exact ⟨hheading, ha.plain.word.eq_of_append hb.plain.word hr hr' (List.append_cancel_left h)⟩

end Comparison

end CardQuery

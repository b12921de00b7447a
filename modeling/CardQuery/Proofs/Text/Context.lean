import CardQuery.Proofs.Text.LowerCase
import CardQuery.Text.Piece

/-!
# Proofs/Text/Context — the lower-case form of a piece of a text

A capital sigma lowers by what stands around it, so that a piece of a text may lower to one thing
within the text and to another by itself.

* `lowerWithin_eq_iff` — a piece lowers alike in two places exactly if its capital sigmas end words
  alike.
* `isPiece_lower_of_keeps` — where they end words as they do in the piece by itself, the lower-case
  form of the piece stands in that of the text.
* `isPiece_lower_iff` — for all texts around the piece, this is so exactly if no capital sigma of it
  is left open (`LeavesSigmaOpen`).
-/

namespace CardQuery.Text

/-! ## Cased neighbours -/

/-- Whether the sigma rule looks through a character. -/
def isTransparent (c : Char) : Bool := caseTransparentSpans.contains c.toNat

/-- Whether a capital sigma ends a word, given what stands before it (nearest first) and after. -/
def endsWord (before after : List Char) : Bool := startsCased before && !startsCased after

theorem startsCased_cons (c : Char) (s : List Char) :
    startsCased (c :: s) = if isTransparent c then startsCased s else casedSpans.contains c.toNat := by
  rw [startsCased, List.dropWhile_cons, isTransparent]
  cases caseTransparentSpans.contains c.toNat <;> rfl

/-- **The nearest character is looked for in one text and then in the other.** -/
theorem startsCased_append (s t : List Char) :
    startsCased (s ++ t) = if s.all isTransparent then startsCased t else startsCased s := by
  induction s with
  | nil => rfl
  | cons c s ih =>
    rw [List.cons_append, startsCased_cons, startsCased_cons, ih, List.all_cons]
    cases isTransparent c <;> simp

theorem startsCased_of_transparent {s : List Char} (h : s.all isTransparent = true) :
    startsCased s = false := by
  have hnone := startsCased_append s []
  rw [List.append_nil, if_pos h] at hnone
  exact hnone

/-- Behind what does not start cased, nothing is. -/
theorem startsCased_append_of_uncased {t : List Char} (s : List Char) (h : startsCased t = false) :
    startsCased (s ++ t) = startsCased s := by
  rw [startsCased_append, h]
  split
  · rename_i hs
    rw [startsCased_of_transparent hs]
  · rfl

/-! ## Pieces in two places -/

/-- The lower-case form of a piece of a text, given what stands before it (nearest first) and after
it. -/
def lowerWithin : List Char → List Char → List Char → List Char
  | _, [], _ => []
  | before, c :: s, after => lowerAt before c (s ++ after) ++ lowerWithin (c :: before) s after

theorem lowerFrom_append (before s after : List Char) :
    lowerFrom before (s ++ after)
      = lowerWithin before s after ++ lowerFrom (s.reverse ++ before) after := by
  induction s generalizing before with
  | nil => rfl
  | cons c s ih =>
    rw [List.cons_append, lowerFrom, ih, lowerWithin, List.append_assoc, List.reverse_cons,
      List.append_assoc]
    rfl

theorem lowerWithin_nil (before s : List Char) : lowerWithin before s [] = lowerFrom before s := by
  have h := lowerFrom_append before s []
  rw [List.append_nil, lowerFrom, List.append_nil] at h
  exact h.symm

theorem lowerAt_sigma (before after : List Char) :
    lowerAt before 'Σ' after = [if endsWord before after then 'ς' else 'σ'] := rfl

/-- **Only the capital sigma looks around.** -/
theorem lowerAt_of_ne {c : Char} (hc : c ≠ 'Σ') (before after : List Char) :
    lowerAt before c after = lowerAt [] c [] := by
  have hcode : (c.toNat == 0x3A3) = false :=
    beq_false_of_ne fun h => hc (Char.toNat_inj.mp h)
  simp only [lowerAt, hcode, Bool.false_eq_true, if_false]

/-- **A piece lowers alike in two places exactly if its capital sigmas end words alike.** -/
theorem lowerWithin_eq_iff {before before' s after after' : List Char} :
    lowerWithin before s after = lowerWithin before' s after' ↔
      ∀ s₁ s₂, s = s₁ ++ 'Σ' :: s₂ →
        endsWord (s₁.reverse ++ before) (s₂ ++ after)
          = endsWord (s₁.reverse ++ before') (s₂ ++ after') := by
  induction s generalizing before before' with
  | nil => exact ⟨fun _ s₁ s₂ h => by simp at h, fun _ => rfl⟩
  | cons c s ih =>
    -- the splits behind `c` are those of the rest
    have hsplit (P : List Char → List Char → Prop) :
        (∀ s₁ s₂, c :: s = s₁ ++ 'Σ' :: s₂ → P s₁ s₂) ↔
          (c = 'Σ' → P [] s) ∧ ∀ s₁ s₂, s = s₁ ++ 'Σ' :: s₂ → P (c :: s₁) s₂ := by
      constructor
      · intro h
        exact ⟨fun hc => h [] s (by rw [hc]; rfl), fun s₁ s₂ hs => h (c :: s₁) s₂ (by rw [hs]; rfl)⟩
      · rintro ⟨hfirst, hrest⟩ s₁ s₂ hs
        rcases List.cons_eq_append_iff.mp hs with ⟨rfl, hsigma⟩ | ⟨s₁, rfl, hsigma⟩
        · obtain ⟨hc, rfl⟩ := List.cons.inj hsigma
          exact hfirst hc.symm
        · exact hrest s₁ s₂ hsigma
    rw [hsplit, lowerWithin, lowerWithin]
    by_cases hc : c = 'Σ'
    · subst hc
      rw [lowerAt_sigma, lowerAt_sigma, List.singleton_append, List.singleton_append,
        List.cons.injEq, ih]
      have hsigma (b b' : Bool) :
          (if b then 'ς' else 'σ') = (if b' then 'ς' else 'σ') ↔ b = b' := by
        cases b <;> cases b' <;> decide
      simp [hsigma]
    · rw [lowerAt_of_ne hc, lowerAt_of_ne hc before', List.append_cancel_left_eq, ih]
      simp [hc]

/-- **The capital sigmas of a piece end words in the text as they do in the piece by itself.**
`before` is what stands before the piece, nearest first. -/
def KeepsSigmas (before s after : List Char) : Prop :=
  ∀ s₁ s₂, s = s₁ ++ 'Σ' :: s₂ →
    endsWord (s₁.reverse ++ before) (s₂ ++ after) = endsWord s₁.reverse s₂

theorem lowerWithin_eq_lowerChars_iff {before s after : List Char} :
    lowerWithin before s after = lowerChars s ↔ KeepsSigmas before s after := by
  rw [lowerChars, ← lowerWithin_nil, lowerWithin_eq_iff]
  simp only [List.append_nil]
  rfl

/-- **The lower-case form of a piece stands in that of the text** if the text keeps its sigmas. -/
theorem isPiece_lower_of_keeps {before s after : List Char}
    (h : KeepsSigmas before.reverse s after) :
    isPiece (lowerChars s) (lowerChars (before ++ s ++ after)) = true := by
  rw [← lowerWithin_eq_lowerChars_iff] at h
  refine isPiece_iff.mpr
    ⟨lowerWithin [] before (s ++ after), lowerFrom (s.reverse ++ before.reverse) after, ?_⟩
  rw [lowerChars, List.append_assoc, lowerFrom_append, lowerFrom_append, List.append_nil, h,
    List.append_assoc]

/-- Where no cased letter comes next on either side, the sigmas are kept. -/
theorem keepsSigmas_of_uncased {before after : List Char} (s : List Char)
    (hbefore : startsCased before = false) (hafter : startsCased after = false) :
    KeepsSigmas before s after := by
  intro s₁ s₂ _
  rw [endsWord, endsWord, startsCased_append_of_uncased _ hbefore,
    startsCased_append_of_uncased _ hafter]

/-! ## Sigmas left open -/

/-- **A piece leaves open whether one of its capital sigmas ends a word**: the sigma has only
transparent characters before it and no cased letter comes next, or a cased letter comes before it
and there are only transparent characters behind it. -/
def LeavesSigmaOpen (s : List Char) : Prop :=
  ∃ s₁ s₂, s = s₁ ++ 'Σ' :: s₂ ∧
    (s₁.all isTransparent = true ∧ startsCased s₂ = false
      ∨ startsCased s₁.reverse = true ∧ s₂.all isTransparent = true)

/-- **A piece that leaves no sigma open keeps its sigmas in every text.** -/
theorem keepsSigmas_of_not_leavesSigmaOpen {s : List Char} (h : ¬ LeavesSigmaOpen s)
    (before after : List Char) : KeepsSigmas before s after := by
  intro s₁ s₂ hs
  have hopen := not_or.mp fun hor => h ⟨s₁, s₂, hs, hor⟩
  rw [endsWord, endsWord, startsCased_append, startsCased_append, List.all_reverse]
  cases hfirst : s₁.all isTransparent with
  | true =>
    -- a cased letter comes next in the piece, so that the sigma ends no word
    have hcased : startsCased s₂ = true := by simpa [hfirst] using hopen.1
    have hstops : s₂.all isTransparent = false := by
      rw [← Bool.not_eq_true]
      intro hs₂
      rw [startsCased_of_transparent hs₂] at hcased
      cases hcased
    simp [hcased, hstops]
  | false =>
    cases hcased : startsCased s₁.reverse with
    | false => simp
    | true =>
      have hstops : s₂.all isTransparent = false := by
        rw [← Bool.not_eq_true]
        exact fun hs₂ => hopen.2 ⟨hcased, hs₂⟩
      simp [hstops]

theorem length_lowerAt (before before' after after' : List Char) (c : Char) :
    (lowerAt before c after).length = (lowerAt before' c after').length := by
  by_cases hc : c = 'Σ'
  · rw [hc]
    rfl
  · rw [lowerAt_of_ne hc, lowerAt_of_ne hc before']

theorem length_lowerWithin (before before' s after after' : List Char) :
    (lowerWithin before s after).length = (lowerWithin before' s after').length := by
  induction s generalizing before before' with
  | nil => rfl
  | cons c s ih =>
    rw [lowerWithin, lowerWithin, List.length_append, List.length_append, ih,
      length_lowerAt before before']

/-! ## Letters that close an open sigma the other way -/

/-- A small letter other than a given character. -/
theorem exists_letter (d : Char) : ∃ x, x ≠ d ∧ startsCased [x] = true
    ∧ ∀ before after, lowerAt before x after = [x] := by
  have ha : ∀ before after, lowerAt before 'a' after = ['a'] := fun before after =>
    (lowerAt_of_ne (by decide) before after).trans (by decide +kernel)
  have hb : ∀ before after, lowerAt before 'b' after = ['b'] := fun before after =>
    (lowerAt_of_ne (by decide) before after).trans (by decide +kernel)
  by_cases hd : d = 'a'
  · exact ⟨'b', by rw [hd]; decide, by decide +kernel, hb⟩
  · exact ⟨'a', Ne.symm hd, by decide +kernel, ha⟩

/-- In a text longer by one character in front, a piece could only begin with that character or be
the rest. -/
theorem not_isPiece_cons {x d : Char} {piece rest : List Char} (hhead : piece.head? = some d)
    (hx : x ≠ d) (hlength : rest.length = piece.length) (hrest : rest ≠ piece) :
    isPiece piece (x :: rest) = false := by
  rw [← Bool.not_eq_true, isPiece_iff]
  rintro ⟨before, after, htext⟩
  cases before with
  | nil =>
    have h := congrArg List.head? htext
    rw [List.nil_append, List.head?_append, hhead] at h
    exact hx (Option.some.inj h)
  | cons y before =>
    have htail : rest = before ++ piece ++ after := (List.cons.inj htext).2
    have hsum := congrArg List.length htail
    simp only [List.length_append] at hsum
    have hbefore : before = [] := List.length_eq_zero_iff.mp (by omega)
    have hafter : after = [] := List.length_eq_zero_iff.mp (by omega)
    rw [hbefore, hafter, List.nil_append, List.append_nil] at htail
    exact hrest htail

theorem isPiece_reverse (s t : List Char) : isPiece s.reverse t.reverse = isPiece s t := by
  have himp {s t : List Char} (h : isPiece s t = true) : isPiece s.reverse t.reverse = true := by
    obtain ⟨before, after, rfl⟩ := isPiece_iff.mp h
    exact isPiece_iff.mpr ⟨after.reverse, before.reverse, by simp⟩
  refine Bool.eq_iff_iff.mpr ⟨fun h => ?_, himp⟩
  simpa using himp h

/-- A piece with a capital sigma has something left in lower case. -/
theorem lowerChars_ne_nil {s s₁ s₂ : List Char} (hs : s = s₁ ++ 'Σ' :: s₂) : lowerChars s ≠ [] := by
  rw [hs, lowerChars, lowerFrom_append, lowerFrom, lowerAt_sigma]
  simp

/-- **Behind a letter, a first sigma that ends no word by itself ends one.** -/
theorem not_isPiece_behind {s s₁ s₂ : List Char} (hs : s = s₁ ++ 'Σ' :: s₂)
    (hfirst : s₁.all isTransparent = true) (hnext : startsCased s₂ = false) :
    ∃ x, isPiece (lowerChars s) (lowerChars (x :: s)) = false := by
  obtain ⟨d, low, hlow⟩ := List.exists_cons_of_ne_nil (lowerChars_ne_nil hs)
  obtain ⟨x, hne, hcased, hx⟩ := exists_letter d
  refine ⟨x, ?_⟩
  rw [lowerChars, lowerChars, lowerFrom, hx, ← lowerWithin_nil, ← lowerWithin_nil]
  refine not_isPiece_cons (d := d) ?_ hne (length_lowerWithin ..) fun heq => ?_
  · rw [lowerWithin_nil, ← lowerChars, hlow, List.head?_cons]
  · have hkeeps := lowerWithin_eq_iff.mp heq s₁ s₂ hs
    rw [endsWord, endsWord, List.append_nil, List.append_nil, startsCased_append, List.all_reverse,
      if_pos hfirst, hcased, hnext, startsCased_of_transparent (by rwa [List.all_reverse])] at hkeeps
    cases hkeeps

/-- **In front of a letter, a last sigma that ends a word by itself ends none.** -/
theorem not_isPiece_ahead {s s₁ s₂ : List Char} (hs : s = s₁ ++ 'Σ' :: s₂)
    (hfirst : startsCased s₁.reverse = true) (hnext : s₂.all isTransparent = true) :
    ∃ x, isPiece (lowerChars s) (lowerChars (s ++ [x])) = false := by
  obtain ⟨d, low, hlow⟩ := List.exists_cons_of_ne_nil
    (mt List.reverse_eq_nil_iff.mp (lowerChars_ne_nil hs))
  obtain ⟨x, hne, hcased, hx⟩ := exists_letter d
  refine ⟨x, ?_⟩
  have htext : lowerChars (s ++ [x]) = lowerWithin [] s [x] ++ [x] := by
    rw [lowerChars, lowerFrom_append, lowerFrom, hx, lowerFrom]
    rfl
  rw [← isPiece_reverse, htext, List.reverse_concat]
  refine not_isPiece_cons (d := d) ?_ hne ?_ fun heq => ?_
  · rw [hlow, List.head?_cons]
  · rw [List.length_reverse, List.length_reverse, lowerChars, ← lowerWithin_nil,
      length_lowerWithin [] [] s [x] []]
  · rw [List.reverse_inj, lowerChars, ← lowerWithin_nil] at heq
    have hkeeps := lowerWithin_eq_iff.mp heq s₁ s₂ hs
    rw [endsWord, endsWord, List.append_nil, List.append_nil, startsCased_append s₂, if_pos hnext,
      hcased, hfirst, startsCased_of_transparent hnext] at hkeeps
    cases hkeeps

/-- **The lower-case form of a piece stands in that of every text around it** exactly if the piece
leaves no capital sigma open. -/
theorem isPiece_lower_iff {s : List Char} :
    (∀ before after, isPiece (lowerChars s) (lowerChars (before ++ s ++ after)) = true)
      ↔ ¬ LeavesSigmaOpen s := by
  refine ⟨?_, fun h before after =>
    isPiece_lower_of_keeps (keepsSigmas_of_not_leavesSigmaOpen h _ _)⟩
  rintro hall ⟨s₁, s₂, hs, ⟨hfirst, hnext⟩ | ⟨hfirst, hnext⟩⟩
  · obtain ⟨x, hx⟩ := not_isPiece_behind hs hfirst hnext
    have h := hall [x] []
    rw [List.append_nil, List.singleton_append, hx] at h
    cases h
  · obtain ⟨x, hx⟩ := not_isPiece_ahead hs hfirst hnext
    have h := hall [] [x]
    rw [List.nil_append, hx] at h
    cases h

end CardQuery.Text

import CardQuery.Proofs.Lexer.LookBack
import Mathlib.Data.List.TakeWhile

/-!
# Proofs/Lexer/Gaps — texts that differ in their gaps only

* `Alike` — two texts are the same but for the size of their gaps and the characters in them.
* `startAt_respaced` — what begins at a character is the same with other gaps before and behind it,
  if there is no backslash behind it.

The lexer reads gaps in several places: it looks back for an operator before a slash, a word ends at a
gap, and an exact name stands behind any number of blanks.  In none of them it tells one gap from
another, and the end of a text is a gap to it as well.

A backslash is another matter.  A line break behind it breaks a quotation or a pattern, so that two
slashes with a gap between them are a pattern or two words, depending on the gap.
-/

namespace CardQuery

open Text

/-! ## Texts that differ in their gaps -/

/-- **Two texts differ in their gaps only.**  At their ends gaps may also be added or left out. -/
inductive Alike : List Char → List Char → Prop where
  | edge {g g' : List Char} : (∀ c ∈ g, isGap c = true) → (∀ c ∈ g', isGap c = true) → Alike g g'
  | gap {g g' s s' : List Char} : g ≠ [] → g' ≠ [] → (∀ c ∈ g, isGap c = true) →
      (∀ c ∈ g', isGap c = true) → Alike s s' → Alike (g ++ s) (g' ++ s')
  | cons {s s' : List Char} (c : Char) : Alike s s' → Alike (c :: s) (c :: s')

/-- A text has a gap or its end at the head. -/
def GapAhead (s : List Char) : Prop := ∀ c ∈ s.head?, isGap c = true

theorem gapAhead_of_forall {g : List Char} (hg : ∀ c ∈ g, isGap c = true) : GapAhead g :=
  fun c hc => hg c (List.mem_of_mem_head? hc)

theorem gapAhead_append {g s : List Char} (hne : g ≠ []) (hg : ∀ c ∈ g, isGap c = true) :
    GapAhead (g ++ s) := by
  obtain ⟨c, g, rfl⟩ := List.exists_cons_of_ne_nil hne
  rintro b hb
  cases hb
  exact hg c List.mem_cons_self

theorem GapAhead.atWordEnd {s : List Char} (h : GapAhead s) : atWordEnd s = true := by
  cases s with
  | nil => rfl
  | cons c s =>
    rw [CardQuery.atWordEnd, isBlank_of_isGap (h c rfl)]
    rfl

/-- No run without gaps begins at a gap. -/
theorem GapAhead.run {s : List Char} (h : GapAhead s) {p : Char → Bool}
    (hp : ∀ c, isGap c = true → p c = false) : s.takeWhile p = [] ∧ s.dropWhile p = s := by
  cases s with
  | nil => exact ⟨rfl, rfl⟩
  | cons c s =>
    have hc : ¬ p c = true := by simp [hp c (h c rfl)]
    exact ⟨List.takeWhile_cons_of_neg hc, List.dropWhile_cons_of_neg hc⟩

theorem GapAhead.standsApart {s : List Char} (h : GapAhead s) : StandsApart s.head? :=
  fun b hb => .inl (isBlank_of_isGap (h b hb))

namespace Alike

variable {s s' t : List Char} {c : Char}

theorem symm (h : Alike s s') : Alike s' s := by
  induction h with
  | edge hg hg' => exact .edge hg' hg
  | gap hne hne' hg hg' _ ih => exact .gap hne' hne hg' hg ih
  | cons c _ ih => exact .cons c ih

theorem append (h : Alike s s') (more : List Char) : Alike (more ++ s) (more ++ s') := by
  induction more with
  | nil => exact h
  | cons c more ih => exact .cons c ih

/-- Between two tokens a gap stands in both texts or in none. -/
theorem between {g g' : List Char} (h : Alike s s') (hg : ∀ c ∈ g, isGap c = true)
    (hg' : ∀ c ∈ g', isGap c = true) (hempty : g = [] ↔ g' = []) : Alike (g ++ s) (g' ++ s') := by
  by_cases hne : g = []
  · rwa [hne, hempty.mp hne]
  · exact .gap hne (mt hempty.mpr hne) hg hg' h

/-- **Both texts begin with a gap, or with the same character.** -/
theorem cases_head (h : Alike s s') :
    GapAhead s ∧ GapAhead s' ∨ ∃ c t t', s = c :: t ∧ s' = c :: t' ∧ Alike t t' := by
  cases h with
  | edge hg hg' => exact .inl ⟨gapAhead_of_forall hg, gapAhead_of_forall hg'⟩
  | gap hne hne' hg hg' _ => exact .inl ⟨gapAhead_append hne hg, gapAhead_append hne' hg'⟩
  | cons c h => exact .inr ⟨c, _, _, rfl, rfl, h⟩

/-- A character that is no gap stands in both texts. -/
theorem exists_cons (h : Alike (c :: s) t) (hc : isGap c = false) :
    ∃ s', t = c :: s' ∧ Alike s s' := by
  rcases h.cases_head with ⟨hgap, -⟩ | ⟨b, s, s', hs, rfl, h⟩
  · cases hc.symm.trans (hgap c rfl)
  · obtain ⟨rfl, rfl⟩ := List.cons.inj hs
    exact ⟨s', rfl, h⟩

theorem head?_iff (h : Alike s s') (hc : isGap c = false) :
    s.head? = some c ↔ s'.head? = some c := by
  have himp {s s' : List Char} (h : Alike s s') (hs : s.head? = some c) : s'.head? = some c := by
    obtain ⟨s, rfl⟩ := List.head?_eq_some_iff.mp hs
    obtain ⟨s', rfl, -⟩ := h.exists_cons hc
    rfl
  exact ⟨himp h, himp h.symm⟩

/-- So does a word. -/
theorem exists_append {word : List Char} (h : Alike (word ++ s) t)
    (hword : ∀ c ∈ word, isGap c = false) : ∃ s', t = word ++ s' ∧ Alike s s' := by
  induction word generalizing t with
  | nil => exact ⟨t, rfl, h⟩
  | cons c word ih =>
    obtain ⟨hc, hword⟩ := List.forall_mem_cons.mp hword
    obtain ⟨u, rfl, hrest⟩ := h.exists_cons hc
    obtain ⟨s', rfl, hs⟩ := ih hrest hword
    exact ⟨s', rfl, hs⟩

/-- A run without gaps goes as far in both texts, and they differ in their gaps behind it. -/
theorem run {p : Char → Bool} (hp : ∀ c, isGap c = true → p c = false) (h : Alike s s') :
    s.takeWhile p = s'.takeWhile p ∧ Alike (s.dropWhile p) (s'.dropWhile p) := by
  induction h with
  | edge hg hg' =>
    obtain ⟨htake, hdrop⟩ := (gapAhead_of_forall hg).run hp
    obtain ⟨htake', hdrop'⟩ := (gapAhead_of_forall hg').run hp
    rw [htake, htake', hdrop, hdrop']
    exact ⟨rfl, .edge hg hg'⟩
  | gap hne hne' hg hg' h _ =>
    obtain ⟨htake, hdrop⟩ := (gapAhead_append hne hg).run hp
    obtain ⟨htake', hdrop'⟩ := (gapAhead_append hne' hg').run hp
    rw [htake, htake', hdrop, hdrop']
    exact ⟨rfl, .gap hne hne' hg hg' h⟩
  | cons c h ih =>
    by_cases hc : p c = true
    · rw [List.takeWhile_cons_of_pos hc, List.takeWhile_cons_of_pos hc,
        List.dropWhile_cons_of_pos hc, List.dropWhile_cons_of_pos hc, ih.1]
      exact ⟨rfl, ih.2⟩
    · rw [List.takeWhile_cons_of_neg hc, List.takeWhile_cons_of_neg hc,
        List.dropWhile_cons_of_neg hc, List.dropWhile_cons_of_neg hc]
      exact ⟨rfl, .cons c h⟩

/-- Behind their first blanks both texts differ in their gaps only. -/
theorem dropBlanks (h : Alike s s') : Alike (s.dropWhile isBlank) (s'.dropWhile isBlank) := by
  have hblank {g : List Char} (hg : ∀ c ∈ g, isGap c = true) : ∀ c ∈ g, isBlank c = true :=
    fun c hc => isBlank_of_isGap (hg c hc)
  induction h with
  | edge hg hg' =>
    rw [List.dropWhile_eq_nil_iff.mpr (hblank hg), List.dropWhile_eq_nil_iff.mpr (hblank hg')]
    exact .edge nofun nofun
  | gap _ _ hg hg' _ ih =>
    rwa [List.dropWhile_append_of_pos (hblank hg), List.dropWhile_append_of_pos (hblank hg')]
  | cons c h ih =>
    by_cases hc : isBlank c = true
    · rwa [List.dropWhile_cons_of_pos hc, List.dropWhile_cons_of_pos hc]
    · rw [List.dropWhile_cons_of_neg hc, List.dropWhile_cons_of_neg hc]
      exact .cons c h

/-- Behind their blanks both texts begin with the same character, or end. -/
theorem head?_dropBlanks (h : Alike s s') :
    (s.dropWhile isBlank).head? = (s'.dropWhile isBlank).head? := by
  have hend {s : List Char} (hgap : GapAhead (s.dropWhile isBlank)) : s.dropWhile isBlank = [] := by
    have hstop := List.head?_dropWhile_not isBlank s
    cases hs : s.dropWhile isBlank with
    | nil => rfl
    | cons c t =>
      rw [hs] at hgap hstop
      cases (isBlank_of_isGap (hgap c rfl)).symm.trans hstop
  rcases h.dropBlanks.cases_head with ⟨hs, hs'⟩ | ⟨c, t, t', hs, hs', -⟩
  · rw [hend hs, hend hs']
  · rw [hs, hs']
    rfl

theorem atWordEnd_eq (h : Alike s s') : atWordEnd s = atWordEnd s' := by
  rcases h.cases_head with ⟨hs, hs'⟩ | ⟨c, t, t', rfl, rfl, -⟩
  · rw [hs.atWordEnd, hs'.atWordEnd]
  · rfl

theorem standsApart (h : Alike s s') (hs : StandsApart s.head?) : StandsApart s'.head? := by
  rcases h.cases_head with ⟨-, hs'⟩ | ⟨c, t, t', rfl, rfl, -⟩
  · exact hs'.standsApart
  · exact hs

/-- What looks like an operator in one text stands in the other, and looks like one there. -/
theorem exists_looksLikeOperator {word near : List Char} (hword : LooksLikeOperator word near)
    (h : Alike (word.reverse ++ near) t) :
    ∃ near', t = word.reverse ++ near' ∧ LooksLikeOperator word near' := by
  have hplain : ∀ c ∈ word.reverse, isGap c = false := by
    intro c hc
    rw [List.mem_reverse] at hc
    rcases hword with ⟨hdashes, -⟩ | ⟨hletters, -⟩
    · rw [hdashes.2 c hc]
      rfl
    · simpa using not_isGap_of_isWordChar (isWordChar_of_isNameStart (hletters.letter hc).1)
  obtain ⟨near', rfl, hnear⟩ := h.exists_append hplain
  refine ⟨near', rfl, hword.imp (And.imp_right hnear.standsApart) (And.imp_right fun hend => ?_)⟩
  rwa [← hnear.atWordEnd_eq]

/-- **A pattern may begin behind the one text exactly if it may behind the other.** -/
theorem mayOpenPattern_eq (h : Alike s s') : mayOpenPattern s = mayOpenPattern s' := by
  have himp {s s' : List Char} (h : Alike s s') (hs : mayOpenPattern s = true) :
      mayOpenPattern s' = true := by
    have hblanks := h.dropBlanks
    have hhead := h.head?_dropBlanks
    rw [← mayOpenPattern_dropWhile] at hs ⊢
    cases hdrop : s.dropWhile isBlank with
    | nil =>
      rw [hdrop, eq_comm, List.head?_nil, List.head?_eq_none_iff] at hhead
      rw [hhead]
      rfl
    | cons c t =>
      rw [hdrop, eq_comm] at hhead
      obtain ⟨t', hdrop'⟩ := List.head?_eq_some_iff.mp hhead
      have hc : isBlank c = false := by
        have hstop := List.head?_dropWhile_not isBlank s
        rwa [hdrop] at hstop
      rw [hdrop, mayOpenPattern_cons_iff hc] at hs
      rw [hdrop'] at hblanks ⊢
      rw [mayOpenPattern_cons_iff hc]
      refine hs.imp_right ?_
      rintro ⟨word, near, heq, hword⟩
      rw [hdrop, heq] at hblanks
      obtain ⟨near', heq', hword'⟩ := exists_looksLikeOperator hword hblanks
      exact ⟨word, near', heq', hword'⟩
  rw [Bool.eq_iff_iff]
  exact ⟨himp h, himp h.symm⟩

end Alike

/-! ## What depends on gaps only in kind -/

theorem GapAhead.operatorAt? {s : List Char} (h : GapAhead s) : operatorAt? s = none := by
  cases s with
  | nil => rfl
  | cons c s =>
    have hc : isGap c = true := h c rfl
    unfold CardQuery.operatorAt?
    split <;> simp_all [isGap]

/-- Only an equals sign makes an operator longer. -/
theorem operatorAt?_cons_congr {c : Char} {s s' : List Char}
    (h : s.head? = some '=' ↔ s'.head? = some '=') : operatorAt? (c :: s) = operatorAt? (c :: s') := by
  have hlong {s s' : List Char} : operatorAt? (c :: '=' :: s) = operatorAt? (c :: '=' :: s') := by
    by_cases hc : c = '!' ∨ c = '<' ∨ c = '>' ∨ c = ':' ∨ c = '='
    · rcases hc with rfl | rfl | rfl | rfl | rfl <;> rfl
    · simp only [not_or] at hc
      simp [operatorAt?, hc]
  have hshort {s : List Char} (hs : s.head? ≠ some '=') : operatorAt? (c :: s) = operatorAt? [c] := by
    cases s with
    | nil => rfl
    | cons d s =>
      have hd : d ≠ '=' := fun h => hs (congrArg some h)
      by_cases hc : c = '!' ∨ c = '<' ∨ c = '>' ∨ c = ':' ∨ c = '='
      · rcases hc with rfl | rfl | rfl | rfl | rfl <;> simp [operatorAt?, hd]
      · simp only [not_or] at hc
        simp [operatorAt?, hc]
  by_cases heq : s.head? = some '='
  · obtain ⟨s, rfl⟩ := List.head?_eq_some_iff.mp heq
    obtain ⟨s', rfl⟩ := List.head?_eq_some_iff.mp (h.mp heq)
    exact hlong
  · rw [hshort heq, hshort (mt h.mpr heq)]

section Runs

variable {c : Char} {tail tail' : List Char} (h : Alike tail tail')

include h

theorem wordAt_alike : wordAt c tail = wordAt c tail' := by
  have hgap (b : Char) (hb : isGap b = true) : isValueChar b = false :=
    isValueChar_eq_false_iff.mpr (.inl (isBlank_of_isGap hb))
  rw [wordAt, wordAt, (h.run hgap).1]

theorem keywordAt_alike (kind : TokenKind) {word : List Char}
    (hword : ∀ w ∈ word, isNameStart w = true) :
    keywordAt kind word c tail = keywordAt kind word c tail' := by
  have himp {tail tail' : List Char} (h : Alike tail tail')
      (hkey : keywordAt kind word c tail ≠ .nothing) :
      keywordAt kind word c tail = keywordAt kind word c tail' := by
    rw [keywordAt] at hkey
    split at hkey
    · rename_i hcond
      obtain ⟨hletters, -⟩ := Bool.and_eq_true_iff.mp hcond
      have hlower : (c :: tail.take (word.length - 1)).map Char.toLower = word := eq_of_beq hletters
      have hlen : (tail.take (word.length - 1)).length = word.length - 1 := by
        have hlength := congrArg List.length hlower
        rw [List.length_map, List.length_cons] at hlength
        omega
      have hplain : ∀ b ∈ tail.take (word.length - 1), isGap b = false := by
        intro b hb
        have hmem : b.toLower ∈ word := by
          rw [← hlower]
          exact List.mem_map_of_mem (List.mem_cons_of_mem c hb)
        have hname := isNameStart_of_toLower (hword _ hmem)
        simpa using not_isGap_of_isWordChar (isWordChar_of_isNameStart hname)
      rw [← List.take_append_drop (word.length - 1) tail] at h
      obtain ⟨s', rfl, hrest⟩ := h.exists_append hplain
      have hdrop : (tail.take (word.length - 1) ++ s').drop (word.length - 1) = s' := by
        rw [List.drop_append_of_le_length (by omega), List.drop_eq_nil_of_le (by omega)]
        rfl
      have htake : (tail.take (word.length - 1) ++ s').take (word.length - 1)
          = tail.take (word.length - 1) := by
        rw [List.take_append_of_le_length (by omega), List.take_take, Nat.min_self]
      rw [keywordAt, keywordAt, htake, hdrop, hrest.atWordEnd_eq]
    · exact absurd rfl hkey
  by_cases hkey : keywordAt kind word c tail = .nothing
  · by_cases hkey' : keywordAt kind word c tail' = .nothing
    · rw [hkey, hkey']
    · exact (himp h.symm hkey').symm
  · exact himp h hkey

theorem operatorAt?_alike : operatorAt? tail = operatorAt? tail' := by
  rcases h.cases_head with ⟨htail, htail'⟩ | ⟨c, t, t', rfl, rfl, ht⟩
  · rw [htail.operatorAt?, htail'.operatorAt?]
  · exact operatorAt?_cons_congr (ht.head?_iff (by decide))

theorem comparisonAt_alike : comparisonAt c tail = comparisonAt c tail' := by
  have hgap (b : Char) (hb : isGap b = true) : isNameChar b = false := by
    rw [← Bool.not_eq_true]
    exact fun hname => not_isGap_of_isWordChar (isWordChar_of_isNameChar hname) hb
  obtain ⟨hname, hrest⟩ := h.run hgap
  rw [comparisonAt, comparisonAt, hname, operatorAt?_alike hrest]

end Runs

/-! ## What is written over several characters -/

theorem backslash_mem_of_escapesBreak {s : List Char} (h : escapesBreak s = true) : '\\' ∈ s := by
  fun_induction escapesBreak s with
  | case1 => exact List.mem_cons_self
  | case2 c s _ ih => exact List.mem_cons_of_mem c (ih h)
  | case3 => cases h

theorem Broken.backslash_mem {quote : Char} {tail : List Char} (h : Broken quote tail) :
    '\\' ∈ tail := by
  obtain ⟨body, rest, -, rfl, hbreak⟩ := h
  exact List.mem_append_left _ (backslash_mem_of_escapesBreak hbreak)

/-- Where a mark is no exact name, nothing behind it can be a name. -/
theorem not_isValueChar_of_exactNameAt {tail : List Char} (hplain : '\\' ∉ tail)
    (h : exactNameAt tail = .nothing) :
    ∀ d ∈ (tail.dropWhile isBlank).head?, isValueChar d = false ∧ d ≠ '"' := by
  intro d hd
  obtain ⟨rest, hrest⟩ := List.head?_eq_some_iff.mp hd
  have hsuffix : d :: rest <:+ tail := hrest ▸ List.dropWhile_suffix isBlank
  rw [exactNameAt, hrest] at h
  dsimp only at h
  split at h
  · have hmem := ((quotationAt_eq_nothing_iff _ _).mp h).backslash_mem
    exact absurd (hsuffix.subset (List.mem_cons_of_mem d hmem)) hplain
  · rename_i hquote
    split at h
    · rename_i hname
      refine ⟨?_, by simpa using hquote⟩
      rw [← Bool.not_eq_true]
      intro hd
      rw [List.takeWhile_cons_of_pos hd] at hname
      cases hname
    · cases h

theorem exactNameAt_eq_nothing {tail : List Char}
    (h : ∀ d ∈ (tail.dropWhile isBlank).head?, isValueChar d = false ∧ d ≠ '"') :
    exactNameAt tail = .nothing := by
  rw [exactNameAt]
  cases hrest : tail.dropWhile isBlank with
  | nil => rfl
  | cons d rest =>
    obtain ⟨hd, hquote⟩ := h d (by rw [hrest]; rfl)
    dsimp only
    rw [if_neg (by simpa using hquote), List.takeWhile_cons_of_neg (by simp [hd])]
    rfl

/-- An exact name with its first character. -/
theorem exactNameAt_blanks {blanks rest : List Char} {d : Char}
    (hblanks : ∀ c ∈ blanks, isBlank c = true) (hd : isBlank d = false) :
    exactNameAt (blanks ++ d :: rest) =
      if d == '"' then quotationAt .exactName (blanks.length + 1) rest
      else if ((d :: rest).takeWhile isValueChar).isEmpty then .nothing
      else .token .exactName ((d :: rest).takeWhile isValueChar)
        (blanks.length + ((d :: rest).takeWhile isValueChar).length) := by
  have hdrop : (d :: rest).dropWhile isBlank = d :: rest := dropWhile_isBlank_cons hd
  have htake : (d :: rest).takeWhile isBlank = [] := List.takeWhile_cons_of_neg (by simp [hd])
  rw [exactNameAt, List.dropWhile_append_of_pos hblanks, List.takeWhile_append_of_pos hblanks, hdrop,
    htake, List.append_nil]

/-- An exact name goes on behind its blanks. -/
theorem length_takeWhile_lt_of_exactNameAt {tail chars : List Char} {k : TokenKind} {n : Nat}
    (h : exactNameAt tail = .token k chars n) : (tail.takeWhile isBlank).length < n := by
  rw [exactNameAt] at h
  dsimp only at h
  split at h
  · cases h
  split at h
  · obtain ⟨body, rest, -, -, -, -, -, rfl⟩ := quotationAt_eq_token h
    omega
  split at h
  · cases h
  · rename_i hname
    cases h
    have hpos := List.length_pos_iff.mpr fun hnil => hname (List.isEmpty_iff.mpr hnil)
    omega

/-- **The same thing begins in another text**, if it is nothing or a token of a given length. -/
structure Start.Keeps (n : Nat) (s s' : Start) : Prop where
  nothing : s = .nothing → s' = .nothing
  token : ∀ kind chars, s = .token kind chars n → s' = .token kind chars n

namespace Start.Keeps

variable {n : Nat} {s s' t t' : Start}

theorem of_eq (h : s = s') : s.Keeps n s' := by
  subst h
  exact ⟨id, fun _ _ => id⟩

theorem orElse (hs : s.Keeps n s') (ht : t.Keeps n t') : (s.orElse t).Keeps n (s'.orElse t') := by
  constructor
  · intro h
    obtain ⟨hnothing, hnothing'⟩ := Start.orElse_eq_nothing_iff.mp h
    exact Start.orElse_eq_nothing_iff.mpr ⟨hs.nothing hnothing, ht.nothing hnothing'⟩
  · intro kind chars h
    rcases Start.orElse_eq_token h with h | ⟨hnothing, h⟩
    · rw [hs.token kind chars h]
      rfl
    · rw [hs.nothing hnothing]
      exact ht.token kind chars h

theorem ite {p : Prop} [Decidable p] (hs : p → s.Keeps n s') (ht : ¬ p → t.Keeps n t') :
    (if p then s else t).Keeps n (if p then s' else t') := by
  split
  · exact hs ‹_›
  · exact ht ‹_›

end Start.Keeps

section Literals

variable {more rest rest' : List Char} (hplain : '\\' ∉ more ++ rest)

include hplain

theorem quotationAt_keeps (kind : TokenKind) (extra : Nat) {n : Nat} (hn : n = extra + more.length) :
    (quotationAt kind extra (more ++ rest)).Keeps n (quotationAt kind extra (more ++ rest')) := by
  constructor
  · intro h
    exact absurd ((quotationAt_eq_nothing_iff kind extra).mp h).backslash_mem hplain
  · intro k chars h
    obtain ⟨body, after, hguarded, hbreak, htail, rfl, rfl, hlen⟩ := quotationAt_eq_token h
    -- the token ends with its closing quote
    rw [List.append_cons] at htail
    obtain ⟨rfl, -⟩ := List.append_inj htail (by simp; omega)
    rw [List.append_assoc, List.singleton_append, quotationAt_of_guarded _ _ hguarded hbreak, hlen]

theorem patternAt_keeps (h : Alike rest rest') :
    (patternAt (more ++ rest)).Keeps more.length (patternAt (more ++ rest')) := by
  constructor
  · intro hnothing
    exact absurd (patternAt_eq_nothing_iff.mp hnothing).backslash_mem hplain
  · intro k chars hpattern
    obtain ⟨after, hguarded, hbreak, htail, rfl, hlen⟩ := patternAt_eq_token hpattern
    -- the token goes on to its closing slash at least
    rw [List.append_cons] at htail
    obtain ⟨flags, rfl⟩ : chars ++ ['/'] <+: more := by
      refine List.prefix_of_prefix_length_le (List.prefix_append _ after) ?_ (by simp; omega)
      rw [← htail]
      exact List.prefix_append more rest
    rw [List.append_assoc] at htail
    obtain rfl := List.append_cancel_left htail
    have hgap (b : Char) (hb : isGap b = true) : isFlagLetter b = false := by
      rw [← Bool.not_eq_true]
      exact fun hflag => not_isGap_of_isWordChar (isWordChar_of_isFlagLetter hflag) hb
    have hflags := ((h.append flags).run hgap).1
    rw [hlen, List.append_assoc, List.append_assoc, List.singleton_append,
      patternAt_of_guarded hguarded hbreak, hflags]

/-- A mark keeps its name, and it has none where only a parenthesis or the end stands behind its
blanks. -/
theorem exactNameAt_keeps (h : Alike rest rest') :
    (exactNameAt (more ++ rest)).Keeps more.length (exactNameAt (more ++ rest')) := by
  have hsplit : more.takeWhile isBlank ++ more.dropWhile isBlank = more :=
    List.takeWhile_append_dropWhile
  have hblanks : ∀ c ∈ more.takeWhile isBlank, isBlank c = true :=
    List.all_eq_true.mp List.all_takeWhile
  cases hdrop : more.dropWhile isBlank with
  | nil =>
    constructor
    · intro hnothing
      refine exactNameAt_eq_nothing ?_
      rw [← (h.append more).head?_dropBlanks]
      exact not_isValueChar_of_exactNameAt hplain hnothing
    · intro k chars hname
      -- the blanks alone would be longer than the token
      have hlt := length_takeWhile_lt_of_exactNameAt hname
      rw [List.takeWhile_append_of_pos (List.dropWhile_eq_nil_iff.mp hdrop), List.length_append]
        at hlt
      omega
  | cons d mid =>
    have hd : isBlank d = false := by
      have hstop := List.head?_dropWhile_not isBlank more
      rwa [hdrop] at hstop
    rw [hdrop] at hsplit
    rw [← hsplit] at hplain ⊢
    have hvalue (b : Char) (hb : isGap b = true) : isValueChar b = false :=
      isValueChar_eq_false_iff.mpr (.inl (isBlank_of_isGap hb))
    have hname := ((h.append (d :: mid)).run hvalue).1
    rw [List.append_assoc, List.append_assoc, List.cons_append, List.cons_append,
      exactNameAt_blanks hblanks hd, exactNameAt_blanks hblanks hd]
    refine .ite (fun _ => quotationAt_keeps ?_ _ _ ?_) fun _ => .of_eq ?_
    · intro hmem
      exact hplain (by simpa using .inr (.inr (by simpa using hmem)))
    · simp
      omega
    · rw [← List.cons_append, ← List.cons_append, hname]

end Literals

/-! ## What begins at a character -/

section Starts

variable {before before' more rest rest' : List Char} (hbefore : Alike before before')
  (hrest : Alike rest rest') (hplain : '\\' ∉ more ++ rest) (c : Char)

include hrest hplain

theorem valueAt_keeps :
    (valueAt c (more ++ rest)).Keeps more.length (valueAt c (more ++ rest')) := by
  have hword : wordAt c (more ++ rest) = wordAt c (more ++ rest') := wordAt_alike (hrest.append more)
  refine .ite (fun _ => ?_) fun _ => .ite (fun _ => ?_) fun _ => .of_eq hword
  · exact quotationAt_keeps hplain _ _ (Nat.zero_add _).symm
  · exact (patternAt_keeps hplain hrest).orElse (.of_eq hword)

include hbefore

theorem itemAt_keeps :
    (itemAt before c (more ++ rest)).Keeps more.length (itemAt before' c (more ++ rest')) := by
  have htail := hrest.append more
  have hword : wordAt c (more ++ rest) = wordAt c (more ++ rest') := wordAt_alike htail
  rw [itemAt, itemAt, hbefore.mayOpenPattern_eq]
  refine .ite (fun _ => .of_eq rfl) fun _ => .ite (fun _ => .of_eq rfl) fun _ =>
    .ite (fun _ => ?_) fun _ => .ite (fun _ => .of_eq rfl) fun _ => .ite (fun _ => ?_) fun _ =>
      .ite (fun _ => ?_) fun _ => ?_
  · exact quotationAt_keeps hplain _ _ (Nat.zero_add _).symm
  · exact (exactNameAt_keeps hplain hrest).orElse (.of_eq hword)
  · exact .orElse (.ite (fun _ => patternAt_keeps hplain hrest) fun _ => .of_eq rfl) (.of_eq hword)
  · have hor : ∀ w ∈ ['o', 'r'], isNameStart w = true := List.all_eq_true.mp rfl
    have hand : ∀ w ∈ ['a', 'n', 'd'], isNameStart w = true := List.all_eq_true.mp rfl
    rw [keywordAt_alike htail .or hor, keywordAt_alike htail .and hand, comparisonAt_alike htail,
      hword]
    exact .of_eq rfl

/-- **The same token begins at a character with other gaps around.** -/
theorem startAt_respaced {value : Bool} {kind : TokenKind} {chars : List Char}
    (h : startAt value before c (more ++ rest) = .token kind chars more.length) :
    startAt value before' c (more ++ rest') = .token kind chars more.length :=
  ((Start.Keeps.ite (fun _ => valueAt_keeps hrest hplain c) fun _ => .of_eq rfl).orElse
    (itemAt_keeps hbefore hrest hplain c)).token kind chars h

end Starts

end CardQuery

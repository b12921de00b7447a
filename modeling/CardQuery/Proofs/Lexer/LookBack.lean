import CardQuery.Proofs.Lexer.Signs
import CardQuery.Proofs.Lexer.Unexpected

/-!
# Proofs/Lexer/LookBack — what a pattern may begin behind

* `mayOpenPattern_cons_iff` — a pattern may begin behind a text exactly if the text ends with an
  opening parenthesis or looks like an operator from behind.
* `mayOpenPattern_run_iff` — behind a run of value characters it is the whole run that has to look
  like an operator.
* `Spells.mayOpenPattern_iff` — so of the tokens only those let a pattern begin that
  `TokenKind.LetsPatternBegin` lists.

The lexer looks back over characters and not over tokens, and the two differ.  An operator word or a
dash right behind a quotation or a pattern is an operator that does not look like one, while an exact
name with a blank in it may look like one.
-/

namespace CardQuery

open Text

/-! ## Looking back -/

/-- An operator word, in any case. -/
def IsOperatorWord (s : List Char) : Prop :=
  s.map Char.toLower = ['o', 'r'] ∨ s.map Char.toLower = ['a', 'n', 'd']

/-- A run of dashes. -/
def IsDashes (s : List Char) : Prop := s ≠ [] ∧ ∀ c ∈ s, c = '-'

/-- **A text that looks like an operator from behind**: dashes that stand apart, or an operator word
with the end of a word before it.  What stands before it is given nearest first. -/
def LooksLikeOperator (s near : List Char) : Prop :=
  IsDashes s ∧ StandsApart near.head? ∨ IsOperatorWord s ∧ atWordEnd near = true

section Operators

variable {s near : List Char}

/-- An operator word by its letters. -/
theorem IsOperatorWord.cases (h : IsOperatorWord s) :
    (∃ d c, s = [d, c] ∧ d.toLower = 'o' ∧ c.toLower = 'r')
      ∨ ∃ e d c, s = [e, d, c] ∧ e.toLower = 'a' ∧ d.toLower = 'n' ∧ c.toLower = 'd' := by
  rcases h with h | h
  · obtain ⟨d, s, rfl, hd, hs⟩ := List.map_eq_cons_iff.mp h
    obtain ⟨c, s, rfl, hc, hnil⟩ := List.map_eq_cons_iff.mp hs
    obtain rfl := List.map_eq_nil_iff.mp hnil
    exact .inl ⟨d, c, rfl, hd, hc⟩
  · obtain ⟨e, s, rfl, he, hs⟩ := List.map_eq_cons_iff.mp h
    obtain ⟨d, s, rfl, hd, hs⟩ := List.map_eq_cons_iff.mp hs
    obtain ⟨c, s, rfl, hc, hnil⟩ := List.map_eq_cons_iff.mp hs
    obtain rfl := List.map_eq_nil_iff.mp hnil
    exact .inr ⟨e, d, c, rfl, he, hd, hc⟩

theorem IsOperatorWord.reverse_eq (h : IsOperatorWord s) :
    ∃ c more, s.reverse = c :: more ∧ (c.toLower = 'r' ∨ c.toLower = 'd') := by
  rcases h.cases with ⟨d, c, rfl, -, hc⟩ | ⟨e, d, c, rfl, -, -, hc⟩
  · exact ⟨c, [d], rfl, .inl hc⟩
  · exact ⟨c, [d, e], rfl, .inr hc⟩

/-- The letters of operator words begin names, and none of them is a flag. -/
theorem IsOperatorWord.letter (h : IsOperatorWord s) {c : Char} (hc : c ∈ s) :
    isNameStart c = true ∧ isFlagLetter c = false := by
  have hmem : c.toLower ∈ ['o', 'r', 'a', 'n', 'd'] := by
    have hmap : c.toLower ∈ s.map Char.toLower := List.mem_map_of_mem hc
    rcases h with h | h
    · rw [h] at hmap
      exact List.mem_append_left ['a', 'n', 'd'] hmap
    · rw [h] at hmap
      exact List.mem_append_right ['o', 'r'] hmap
  have hall : (['o', 'r', 'a', 'n', 'd'].all isNameStart) = true := by decide
  have hflags : (['g', 'i', 'm', 's', 'u', 'y'].all fun c =>
      !(['o', 'r', 'a', 'n', 'd'].contains c.toLower)) = true := by decide
  refine ⟨isNameStart_of_toLower (List.all_eq_true.mp hall _ hmem), ?_⟩
  rw [← Bool.not_eq_true]
  intro hflag
  have hnone := List.all_eq_true.mp hflags c (List.contains_iff_mem.mp hflag)
  rw [List.contains_iff_mem.mpr hmem] at hnone
  cases hnone

theorem IsDashes.reverse_eq (h : IsDashes s) :
    ∃ dashes, s.reverse = '-' :: dashes ∧ ∀ c ∈ dashes, c = '-' := by
  obtain ⟨c, dashes, hcons⟩ := List.exists_cons_of_ne_nil (List.reverse_ne_nil_iff.mpr h.1)
  have hall : ∀ b ∈ c :: dashes, b = '-' := by
    intro b hb
    exact h.2 b (List.mem_reverse.mp (hcons ▸ hb))
  obtain ⟨rfl, hdashes⟩ := List.forall_mem_cons.mp hall
  exact ⟨dashes, hcons, hdashes⟩

/-- What looks like an operator is behind a character that may not stand in a value. -/
theorem LooksLikeOperator.isValueChar_before (h : LooksLikeOperator s near) :
    ∀ c ∈ near.head?, isValueChar c = false := by
  rcases h with ⟨-, happart⟩ | ⟨-, hend⟩
  · intro c hc
    rw [isValueChar_eq_false_iff]
    exact (happart c hc).imp id .inl
  · exact isValueChar_of_atWordEnd hend

end Operators

section LookingBack

variable {c d : Char} {s near more gaps : List Char}

theorem mayOpenPattern_gaps (hgaps : ∀ b ∈ gaps, isBlank b = true) :
    mayOpenPattern (gaps ++ near) = mayOpenPattern near := by
  rw [mayOpenPattern, List.dropWhile_append_of_pos hgaps, ← mayOpenPattern]

theorem mayOpenPattern_dropWhile :
    mayOpenPattern (near.dropWhile isBlank) = mayOpenPattern near := by
  have hgaps : mayOpenPattern (near.takeWhile isBlank ++ near.dropWhile isBlank)
      = mayOpenPattern (near.dropWhile isBlank) :=
    mayOpenPattern_gaps (List.all_eq_true.mp List.all_takeWhile)
  rwa [List.takeWhile_append_dropWhile, eq_comm] at hgaps

theorem dropWhile_isBlank_cons (hc : isBlank c = false) :
    (c :: more).dropWhile isBlank = c :: more :=
  List.dropWhile_cons_of_neg (by rw [hc]; nofun)

/-- Where dashes stand apart there are no more of them. -/
theorem StandsApart.dropWhile_dash (h : StandsApart near.head?) :
    near.dropWhile (· == '-') = near := by
  cases near with
  | nil => rfl
  | cons b near =>
    refine List.dropWhile_cons_of_neg fun hb => ?_
    rw [eq_of_beq hb] at h
    exact absurd (h '-' rfl) (by decide)

/-- Behind a dash a pattern may begin if all dashes together stand apart. -/
theorem mayOpenPattern_dash :
    mayOpenPattern ('-' :: near) = true ↔ StandsApart (near.dropWhile (· == '-')).head? := by
  rw [mayOpenPattern, dropWhile_isBlank_cons (by decide)]
  cases hdrop : near.dropWhile (· == '-') with
  | nil => simp [hdrop, StandsApart]
  | cons b rest => simp [hdrop, StandsApart]

theorem mayOpenPattern_dashes (hs : IsDashes s) (happart : StandsApart near.head?) :
    mayOpenPattern (s.reverse ++ near) = true := by
  obtain ⟨dashes, hcons, hdashes⟩ := hs.reverse_eq
  rwa [hcons, List.cons_append, mayOpenPattern_dash,
    List.dropWhile_append_of_pos (by simpa using hdashes), happart.dropWhile_dash]

theorem exists_dashes (h : mayOpenPattern ('-' :: more) = true) :
    ∃ s near, '-' :: more = s.reverse ++ near ∧ IsDashes s ∧ StandsApart near.head? := by
  refine ⟨('-' :: more.takeWhile (· == '-')).reverse, more.dropWhile (· == '-'), ?_, ⟨by simp, ?_⟩,
    mayOpenPattern_dash.mp h⟩
  · rw [List.reverse_reverse, List.cons_append, List.takeWhile_append_dropWhile]
  · intro b hb
    rcases List.mem_cons.mp (List.mem_reverse.mp hb) with rfl | hb
    · rfl
    · simpa using List.all_eq_true.mp List.all_takeWhile b hb

/-- Behind an operator word a pattern may begin if a word ends before it. -/
theorem mayOpenPattern_operatorWord (hs : IsOperatorWord s) :
    mayOpenPattern (s.reverse ++ near) = atWordEnd near := by
  have hmarks {c : Char} (hc : c ∈ s) : (isBlank c = false ∧ c ≠ '(') ∧ c ≠ '-' := by
    have hname := (hs.letter hc).1
    refine ⟨isBlank_of_isValueChar (isValueChar_of_isNameStart hname), ?_⟩
    rintro rfl
    exact absurd hname (by decide)
  rcases hs.cases with ⟨d, c, rfl, hd, hc⟩ | ⟨e, d, c, rfl, he, hd, hc⟩
  · obtain ⟨⟨hblank, hopen⟩, hdash⟩ := hmarks (c := c) (by simp)
    change mayOpenPattern (c :: d :: near) = _
    rw [mayOpenPattern, dropWhile_isBlank_cons hblank]
    simp [hd, hc]
  · obtain ⟨⟨hblank, hopen⟩, hdash⟩ := hmarks (c := c) (by simp)
    change mayOpenPattern (c :: d :: e :: near) = _
    rw [mayOpenPattern, dropWhile_isBlank_cons hblank]
    simp [he, hd, hc]

theorem exists_operatorWord (hblank : isBlank c = false) (hopen : c ≠ '(') (hdash : c ≠ '-')
    (h : mayOpenPattern (c :: more) = true) :
    ∃ s near, c :: more = s.reverse ++ near ∧ IsOperatorWord s ∧ atWordEnd near = true := by
  rw [mayOpenPattern, dropWhile_isBlank_cons hblank] at h
  split at h
  · contradiction
  · rename_i heq
    exact absurd (List.cons.inj heq).1 hopen
  · rename_i heq
    exact absurd (List.cons.inj heq).1 hdash
  · rename_i c d rest _ _ heq
    obtain ⟨rfl, rfl⟩ := List.cons.inj heq
    dsimp only at h
    split at h
    · exact ⟨[d, _], rest, rfl, .inl (eq_of_beq ‹_›), h⟩
    split at h
    · rename_i hnd
      cases rest with
      | nil => cases h
      | cons e rest =>
        obtain ⟨ha, hend⟩ := Bool.and_eq_true_iff.mp h
        refine ⟨[e, d, _], rest, rfl, .inr ?_, hend⟩
        rw [List.map_cons, eq_of_beq ha]
        exact congrArg ('a' :: ·) (eq_of_beq hnd)
    · cases h
  · cases h

/-- **What opens a pattern looks like an operator**, unless it is a parenthesis. -/
theorem mayOpenPattern_cons_iff (hblank : isBlank c = false) :
    mayOpenPattern (c :: more) = true ↔
      c = '(' ∨ ∃ s near, c :: more = s.reverse ++ near ∧ LooksLikeOperator s near := by
  constructor
  · intro h
    by_cases hopen : c = '('
    · exact .inl hopen
    by_cases hdash : c = '-'
    · subst hdash
      obtain ⟨s, near, heq, hs, happart⟩ := exists_dashes h
      exact .inr ⟨s, near, heq, .inl ⟨hs, happart⟩⟩
    · obtain ⟨s, near, heq, hs, hend⟩ := exists_operatorWord hblank hopen hdash h
      exact .inr ⟨s, near, heq, .inr ⟨hs, hend⟩⟩
  · rintro (rfl | ⟨s, near, heq, ⟨hs, happart⟩ | ⟨hs, hend⟩⟩)
    · rfl
    · rw [heq, mayOpenPattern_dashes hs happart]
    · rw [heq, mayOpenPattern_operatorWord hs, hend]

/-- Whether a pattern may begin behind a character at all: it may end an operator. -/
def mayEndOperator (c : Char) : Bool :=
  isBlank c || c == '(' || c == '-' || c.toLower == 'r' || c.toLower == 'd'

theorem mayOpenPattern_concat (hc : mayEndOperator c = false) :
    mayOpenPattern ((s ++ [c]).reverse ++ near) = false := by
  simp only [mayEndOperator, Bool.or_eq_false_iff, beq_eq_false_iff_ne] at hc
  obtain ⟨⟨⟨⟨hblank, hopen⟩, hdash⟩, hr⟩, hd⟩ := hc
  rw [List.reverse_concat, List.cons_append, ← Bool.not_eq_true]
  intro h
  obtain ⟨s, near, heq, hs, -⟩ := exists_operatorWord hblank hopen hdash h
  obtain ⟨b, rest, hcons, hb⟩ := hs.reverse_eq
  rw [hcons, List.cons_append] at heq
  rw [← (List.cons.inj heq).1] at hb
  rcases hb with hb | hb
  · exact hr hb
  · exact hd hb

/-- What looks like an operator at the end of a run of value characters is the whole run. -/
theorem LooksLikeOperator.eq_run {word before : List Char} (hlooks : LooksLikeOperator word before)
    (heq : s.reverse ++ near = word.reverse ++ before) (hne : s ≠ [])
    (hs : ∀ c ∈ s, isValueChar c = true)
    (hflag : ∀ b ∈ near.head?, isWordChar b = true → isFlagLetter b = true)
    (hdash : ∀ b ∈ near.head?, b = '-' → s.head? ≠ some '-') : word = s ∧ before = near := by
  rcases List.append_eq_append_iff.mp heq with ⟨mid, hword, hnear⟩ | ⟨mid, hrun, hbefore⟩
  · -- the operator cannot begin before the run
    cases mid with
    | nil =>
      rw [List.append_nil] at hword
      exact ⟨List.reverse_injective hword, hnear.symm⟩
    | cons b mid =>
      have hb : b ∈ word := List.mem_reverse.mp (by rw [hword]; simp)
      have hhead : near.head? = some b := by rw [hnear]; rfl
      exfalso
      rcases hlooks with ⟨hdashes, -⟩ | ⟨hletters, -⟩
      · refine hdash b hhead (hdashes.2 b hb) ?_
        obtain ⟨d, run, rfl⟩ := List.exists_cons_of_ne_nil hne
        have hd : d ∈ word := List.mem_reverse.mp (by rw [hword]; simp)
        rw [hdashes.2 d hd]
        rfl
      · obtain ⟨hname, hflags⟩ := hletters.letter hb
        rw [hflag b hhead (isWordChar_of_isNameStart hname)] at hflags
        cases hflags
  · -- and it cannot begin within the run
    cases mid with
    | nil =>
      rw [List.append_nil] at hrun
      exact ⟨(List.reverse_injective hrun).symm, hbefore⟩
    | cons b mid =>
      have hb : isValueChar b = true := hs b (List.mem_reverse.mp (by rw [hrun]; simp))
      rw [hlooks.isValueChar_before b (by rw [hbefore]; rfl)] at hb
      cases hb

/-- **Behind a run of value characters a pattern may begin if the whole run looks like an operator**,
as long as nothing before the run belongs to it. -/
theorem mayOpenPattern_run_iff (hne : s ≠ []) (hs : ∀ c ∈ s, isValueChar c = true)
    (hflag : ∀ b ∈ near.head?, isWordChar b = true → isFlagLetter b = true)
    (hdash : ∀ b ∈ near.head?, b = '-' → s.head? ≠ some '-') :
    mayOpenPattern (s.reverse ++ near) = true ↔ LooksLikeOperator s near := by
  obtain ⟨c, more, hcons⟩ := List.exists_cons_of_ne_nil (List.reverse_ne_nil_iff.mpr hne)
  obtain ⟨hblank, hopen⟩ :=
    isBlank_of_isValueChar (hs c (List.mem_reverse.mp (hcons ▸ List.mem_cons_self)))
  have hiff : mayOpenPattern (s.reverse ++ near) = true ↔ c = '(' ∨
      ∃ word before, s.reverse ++ near = word.reverse ++ before ∧ LooksLikeOperator word before := by
    rw [hcons]
    exact mayOpenPattern_cons_iff hblank
  rw [hiff, or_iff_right hopen]
  constructor
  · rintro ⟨word, before, heq, hlooks⟩
    obtain ⟨rfl, rfl⟩ := hlooks.eq_run heq hne hs hflag hdash
    exact hlooks
  · exact fun hlooks => ⟨s, near, rfl, hlooks⟩

end LookingBack

/-! ## Tokens -/

/-- **A token behind which a pattern may begin**, as it is written and with what stands before it,
nearest first.

An opening parenthesis always lets a pattern begin.  A dash does if all dashes together stand apart,
and an operator word if a word ends before it.  An exact name does if a blank stands behind its mark
and the name is made of dashes or is an operator word. -/
def TokenKind.LetsPatternBegin (kind : TokenKind) (lexeme near : List Char) : Prop :=
  match kind with
  | .opening => True
  | .not => StandsApart (near.dropWhile (· == '-')).head?
  | .and | .or => atWordEnd near = true
  | .exactName =>
    let name := (lexeme.drop 1).dropWhile isBlank
    (∃ b ∈ (lexeme.drop 1).head?, isBlank b = true) ∧ (IsDashes name ∨ IsOperatorWord name)
  | .word | .quoted | .pattern _ | .comparison _ _ | .closing => False

/-- A token of a text behind which a pattern may begin. -/
def Token.LetsPatternBegin (text : List Char) (s : Token) : Prop :=
  s.kind.LetsPatternBegin (text.extract s.start s.stop) (text.take s.start).reverse

section Spelled

variable {kind : TokenKind} {chars lexeme near : List Char}

/-- An exact name looks like an operator only behind blanks. -/
theorem looksLikeOperator_name {blanks name : List Char} (hblanks : ∀ c ∈ blanks, isBlank c = true)
    (hname : ∀ c ∈ name.head?, isBlank c = false) :
    LooksLikeOperator name (blanks.reverse ++ '!' :: near) ↔
      TokenKind.LetsPatternBegin .exactName ('!' :: blanks ++ name) near := by
  have hdrop : (blanks ++ name).dropWhile isBlank = name := by
    rw [List.dropWhile_append_of_pos hblanks]
    cases name with
    | nil => rfl
    | cons c name => exact dropWhile_isBlank_cons (hname c rfl)
  rw [TokenKind.LetsPatternBegin, List.cons_append, List.drop_one, List.tail_cons, hdrop,
    LooksLikeOperator]
  rcases blanks with _ | ⟨c, blanks⟩
  · have hmark : ¬ StandsApart ('!' :: near).head? := fun h => absurd (h '!' rfl) (by decide)
    have hend : ¬ atWordEnd ('!' :: near) = true := by
      rw [show atWordEnd ('!' :: near) = false from rfl]
      nofun
    refine iff_of_false ?_ ?_
    · rintro (⟨-, h⟩ | ⟨-, h⟩)
      · exact hmark h
      · exact hend h
    · rintro ⟨⟨b, hb, hblank⟩, -⟩
      rw [hname b hb] at hblank
      cases hblank
  · obtain ⟨b, more, hcons⟩ :=
      List.exists_cons_of_ne_nil (List.reverse_ne_nil_iff.mpr (List.cons_ne_nil c blanks))
    have hb : isBlank b = true := hblanks b (List.mem_reverse.mp (hcons ▸ List.mem_cons_self))
    have hmark : StandsApart ((c :: blanks).reverse ++ '!' :: near).head? := by
      rw [hcons]
      rintro d hd
      obtain rfl := Option.some.inj hd
      exact .inl hb
    have hend : atWordEnd ((c :: blanks).reverse ++ '!' :: near) = true := by
      rw [hcons, List.cons_append, atWordEnd, hb]
      rfl
    have hfirst : ∃ d ∈ (c :: blanks ++ name).head?, isBlank d = true :=
      ⟨c, rfl, hblanks c List.mem_cons_self⟩
    simp only [hmark, hend, hfirst, and_true, true_and]

/-- Where a pattern may begin behind a bare name. -/
theorem mayOpenPattern_name {blanks name : List Char} (hblanks : ∀ c ∈ blanks, isBlank c = true)
    (hne : name ≠ []) (hvalue : ∀ c ∈ name, isValueChar c = true) :
    mayOpenPattern (('!' :: blanks ++ name).reverse ++ near) = true ↔
      TokenKind.LetsPatternBegin .exactName ('!' :: blanks ++ name) near := by
  have hreverse : ('!' :: blanks ++ name).reverse ++ near
      = name.reverse ++ (blanks.reverse ++ '!' :: near) := by simp
  have hmark : ∀ b ∈ (blanks.reverse ++ '!' :: near).head?, b = '!' ∨ isBlank b = true := by
    intro b hb
    rw [List.head?_append] at hb
    rcases Option.or_eq_some_iff.mp hb with hb | ⟨-, hb⟩
    · exact .inr (hblanks b (List.mem_reverse.mp (List.mem_of_mem_head? hb)))
    · exact .inl (Option.some.inj hb).symm
  have hfirst : ∀ c ∈ name.head?, isBlank c = false := fun c hc =>
    (isBlank_of_isValueChar (hvalue c (List.mem_of_mem_head? hc))).1
  rw [hreverse, mayOpenPattern_run_iff hne hvalue ?_ ?_, looksLikeOperator_name hblanks hfirst]
  · intro b hb hword
    rcases hmark b hb with rfl | hblank
    · exact absurd hword (by decide)
    · rw [isWordChar_of_isBlank hblank] at hword
      cases hword
  · rintro b hb rfl
    rcases hmark '-' hb with h | h
    · cases h
    · exact absurd h (by decide)

/-- A quoted name never lets a pattern begin. -/
theorem not_letsPatternBegin_quotation {blanks body : List Char}
    (hblanks : ∀ c ∈ blanks, isBlank c = true) :
    ¬ TokenKind.LetsPatternBegin .exactName ('!' :: blanks ++ '"' :: body ++ ['"']) near := by
  have hdrop : (('!' :: blanks ++ '"' :: body ++ ['"']).drop 1).dropWhile isBlank
      = '"' :: body ++ ['"'] := by
    rw [List.append_assoc, List.cons_append, List.drop_one, List.tail_cons,
      List.dropWhile_append_of_pos hblanks, List.cons_append]
    exact dropWhile_isBlank_cons (by decide)
  rw [TokenKind.LetsPatternBegin, hdrop]
  rintro ⟨-, hs | hs⟩
  · exact absurd (hs.2 '"' List.mem_cons_self) (by decide)
  · exact absurd (hs.letter (c := '"') List.mem_cons_self).1 (by decide)

/-- **Where a pattern may begin behind a token.** -/
theorem Spells.mayOpenPattern_iff (h : Spells kind chars lexeme)
    (hword : kind = .word → mayOpenPattern (lexeme.reverse ++ near) = false) :
    mayOpenPattern (lexeme.reverse ++ near) = true ↔ kind.LetsPatternBegin lexeme near := by
  have hnever {s : List Char} {c : Char} (hlexeme : lexeme = s ++ [c])
      (hc : mayEndOperator c = false) : mayOpenPattern (lexeme.reverse ++ near) = true ↔ False := by
    rw [hlexeme, mayOpenPattern_concat hc]
    exact iff_of_false nofun id
  cases h with
  | opening => exact ⟨fun _ => trivial, fun _ => rfl⟩
  | closing => exact hnever (s := []) rfl (by decide)
  | not => exact mayOpenPattern_dash
  | and hmap => rw [mayOpenPattern_operatorWord (.inr hmap), TokenKind.LetsPatternBegin]
  | or hmap => rw [mayOpenPattern_operatorWord (.inl hmap), TokenKind.LetsPatternBegin]
  | word =>
    rw [hword rfl]
    exact iff_of_false nofun id
  | quoted => exact hnever rfl (by decide)
  | @pattern _ flags _ _ hflags =>
    rcases List.eq_nil_or_concat flags with rfl | ⟨letters, c, rfl⟩
    · exact hnever rfl (by decide)
    · have hall : (['g', 'i', 'm', 's', 'u', 'y'].all fun c => !mayEndOperator c) = true := by decide
      rw [List.concat_eq_append] at hflags hnever ⊢
      have hc := List.all_eq_true.mp hall c (List.contains_iff_mem.mp (hflags c (by simp)))
      exact hnever (s := '/' :: chars ++ '/' :: letters) (c := c) (by simp) (by simpa using hc)
  | @comparison name op _ _ _ =>
    have hlast : (op.text.toList.getLast?.any fun c => !mayEndOperator c) = true := by
      cases op with
      | _ => decide
    obtain ⟨c, hc, hend⟩ := (Option.any_eq_true ..).mp hlast
    obtain ⟨symbol, hsymbol⟩ := List.getLast?_eq_some_iff.mp hc
    rw [hsymbol] at hnever ⊢
    exact hnever (s := name ++ symbol) (c := c) (by simp) (by simpa using hend)
  | exactName hblanks hne hvalue => exact mayOpenPattern_name hblanks hne hvalue
  | exactQuotation hblanks =>
    rw [hnever rfl (by decide)]
    exact iff_of_false id (not_letsPatternBegin_quotation hblanks)

end Spelled

end CardQuery

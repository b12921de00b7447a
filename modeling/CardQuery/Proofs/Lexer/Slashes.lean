import CardQuery.Proofs.Lexer.LookBack

/-!
# Proofs/Lexer/Slashes — where a slash opens a pattern

* `Reached.mayOpenPattern_iff` — read off the tokens, a pattern may begin at the start and behind the
  tokens that `Token.LetsPatternBegin` lists.
* `slash_opens_pattern` — so a slash that is no value of a comparison opens a pattern there, unless
  the pattern is broken, and begins a word everywhere else.

Behind a bare word no pattern may begin: an operator word that a word ends before and behind is an
operator, a dash begins a token of its own, and nothing that stands right before a word goes on in it.
-/

namespace CardQuery

open Text

/-! ## What begins at a character -/

section Starts

variable {c : Char} {more rest tail chars : List Char} {kind : TokenKind} {n : Nat}

theorem patternAt_kind (h : patternAt tail = .token kind chars n) :
    ∃ flags, kind = .pattern flags := by
  obtain ⟨rest, -, -, -, rfl, -⟩ := patternAt_eq_token h
  exact ⟨_, rfl⟩

theorem quotationAt_kind {k : TokenKind} {extra : Nat}
    (h : quotationAt k extra tail = .token kind chars n) : kind = k := by
  obtain ⟨body, rest, -, -, -, rfl, -⟩ := quotationAt_eq_token h
  rfl

/-- A word is the longest run of characters that may stand in a value. -/
theorem wordAt_eq_token (h : wordAt c tail = .token kind chars n) :
    kind = .word ∧ chars = (c :: tail).takeWhile isValueChar := by
  rw [wordAt] at h
  split at h
  · rename_i hc
    cases h
    exact ⟨rfl, (List.takeWhile_cons_of_pos hc).symm⟩
  · cases h

theorem keywordAt_of_map {word : List Char} (kind : TokenKind)
    (hword : (c :: more).map Char.toLower = word) (hend : atWordEnd rest = true) :
    keywordAt kind word c (more ++ rest) = .token kind (c :: more) more.length := by
  have hlen : word.length - 1 = more.length := by
    rw [← hword, List.length_map]
    rfl
  rw [keywordAt, hlen, List.take_left, List.drop_left, if_pos]
  simp [hword, hend]

/-- What begins at a letter. -/
theorem itemAt_of_isNameStart (before tail : List Char) (hc : isNameStart c = true) :
    itemAt before c tail = (keywordAt .or ['o', 'r'] c tail).orElse
      ((keywordAt .and ['a', 'n', 'd'] c tail).orElse
        ((comparisonAt c tail).orElse (wordAt c tail))) := by
  have hmark {m : Char} (hm : isNameStart m = false) : ¬ (c == m) = true := by
    intro heq
    rw [eq_of_beq heq, hm] at hc
    cases hc
  rw [itemAt, if_neg (hmark (by decide)), if_neg (hmark (by decide)), if_neg (hmark (by decide)),
    if_neg (hmark (by decide)), if_neg (hmark (by decide)), if_neg (hmark (by decide))]

/-- The word for "or" with the end of a word behind it. -/
theorem itemAt_orWord (before : List Char) (hword : (c :: more).map Char.toLower = ['o', 'r'])
    (hend : atWordEnd rest = true) :
    itemAt before c (more ++ rest) = .token .or (c :: more) more.length := by
  have hname := (IsOperatorWord.letter (.inl hword) List.mem_cons_self).1
  rw [itemAt_of_isNameStart before _ hname, keywordAt_of_map .or hword hend]
  rfl

/-- **An operator word with the end of a word behind it is an operator.** -/
theorem itemAt_operatorWord (before : List Char) (hword : IsOperatorWord (c :: more))
    (hend : atWordEnd rest = true) : ∃ kind, kind ≠ .word
      ∧ itemAt before c (more ++ rest) = .token kind (c :: more) more.length := by
  have hname := (hword.letter List.mem_cons_self).1
  rcases hword with hor | hand
  · exact ⟨.or, by decide, itemAt_orWord before hor hend⟩
  · have hfirst : c.toLower ≠ 'o' := by
      rw [(List.cons.inj hand).1]
      decide
    refine ⟨.and, by decide, ?_⟩
    rw [itemAt_of_isNameStart before _ hname, keywordAt_of_toLower_ne .or hfirst,
      keywordAt_of_map .and hand hend]
    rfl

end Starts

/-! ## Queries -/

section Queries

variable {text chars : List Char} {ts : List Token} {value : Bool}
  {before more rest tail : List Char} {c : Char} {s : Token} {kind : TokenKind} {n : Nat}

/-- The character right before a place is the last one of the token that ends there. -/
theorem head?_behind (before more : List Char) (c : Char) :
    (more.reverse ++ c :: before).head? = (c :: more).getLast? := by
  rw [← List.head?_reverse, List.reverse_cons]
  cases more.reverse <;> rfl

/-- A word character right before a character that a value could go on with is a flag. -/
theorem Reached.isFlagLetter_before (h : Reached text ts value before (c :: tail))
    (hc : isValueChar c = true) :
    ∀ b ∈ before.head?, isWordChar b = true → isFlagLetter b = true := by
  intro b hb hword
  have hgap : ¬ isGap b = true := not_isGap_of_isWordChar hword
  rcases h.lastToken with ⟨-, -, hgaps⟩ | ⟨pre, s, v, near, d, more, gaps, -, rfl, hgaps, -, -, -,
    hbegins⟩
  · exact absurd (hgaps b (List.mem_of_mem_head? hb)) hgap
  cases gaps with
  | cons g gaps =>
    obtain rfl : g = b := Option.some.inj hb
    exact absurd (hgaps g List.mem_cons_self) hgap
  | nil =>
    have hlexeme : (d :: more).getLast? = some b := by rwa [← head?_behind near more d]
    rcases hbegins.complete with ⟨flags, hkind, hflags⟩ | hend | hend
    · obtain ⟨b', hb', hflag⟩ := hbegins.isFlagLetter_last hkind hflags
      rw [hlexeme] at hb'
      rwa [Option.some.inj hb']
    · rw [hend b hlexeme] at hword
      cases hword
    · rw [hend c rfl] at hc
      cases hc

/-- Right behind an operator there is a character that may stand in a value and is no dash. -/
theorem Reached.operator_before (h : Reached text ts true before rest) :
    ∃ b ∈ before.head?, isValueChar b = true ∧ b ≠ '-' := by
  rcases h.lastToken with ⟨-, hvalue, -⟩ | ⟨pre, s, v, near, d, more, gaps, -, rfl, -, hvalue, -, -,
    hbegins⟩
  · cases hvalue
  obtain ⟨hkind, hgaps⟩ := Bool.and_eq_true_iff.mp hvalue.symm
  obtain rfl : gaps = [] := List.isEmpty_iff.mp hgaps
  have hspells := hbegins.spells
  rw [List.nil_append, head?_behind]
  generalize d :: more = lexeme at hspells ⊢
  generalize s.kind = kind at hspells hkind
  generalize s.text.toList = chars at hspells
  cases hspells with
  | @comparison name op _ _ _ =>
    have hlast : (op.text.toList.getLast?.any fun b => isValueChar b && b != '-') = true := by
      cases op with
      | _ => decide
    obtain ⟨b, hb, hend⟩ := (Option.any_eq_true ..).mp hlast
    exact ⟨b, List.mem_getLast?_append_of_mem_getLast? hb, by simpa using hend⟩
  | _ => cases hkind

/-- A word ends behind the letters of an operator word. -/
theorem IsOperatorWord.atWordEnd_behind (hs : IsOperatorWord (c :: more))
    (hstart : startAt value before c (more ++ rest) = .token .word chars more.length)
    (hrest : ∀ b ∈ rest.head?, isGap b = true ∨ b = '/') : atWordEnd rest = true := by
  cases rest with
  | nil => rfl
  | cons b rest =>
    have hcomplete := startAt_complete value before c (more ++ b :: rest)
    rw [hstart, Start.Complete, List.take_left, List.drop_left] at hcomplete
    have hvalue : isValueChar b = false := by
      rcases hcomplete with ⟨flags, hkind, -⟩ | hlast | hstop
      · cases hkind
      · have hget := List.getLast?_eq_some_getLast (List.cons_ne_nil c more)
        have hname := (hs.letter (List.getLast_mem (List.cons_ne_nil c more))).1
        have hword := isWordChar_of_isNameStart hname
        rw [hlast _ hget] at hword
        cases hword
      · exact hstop b rfl
    rcases hrest b rfl with hgap | rfl
    · rw [atWordEnd, isBlank_of_isGap hgap]
      rfl
    · cases hvalue

/-- **No pattern begins behind a bare word.** -/
theorem Reached.mayOpenPattern_word (h : Reached text ts value before (c :: (more ++ rest)))
    (hstart : startAt value before c (more ++ rest) = .token .word chars more.length)
    (hspells : Spells .word chars (c :: more))
    (hrest : ∀ b ∈ rest.head?, isGap b = true ∨ b = '/') :
    mayOpenPattern ((c :: more).reverse ++ before) = false := by
  have hvalues : ∀ d ∈ c :: more, isValueChar d = true := by
    generalize c :: more = lexeme at hspells ⊢
    cases hspells with
    | word _ hvalues => exact hvalues
  have hflag := h.isFlagLetter_before (hvalues c List.mem_cons_self)
  rw [← Bool.not_eq_true]
  cases value with
  | true =>
    obtain ⟨b, hb, hvalue, hdash⟩ := h.operator_before
    rw [mayOpenPattern_run_iff (List.cons_ne_nil c more) hvalues hflag]
    · intro hlooks
      rw [hlooks.isValueChar_before b hb] at hvalue
      cases hvalue
    · rintro d hd rfl
      rw [Option.mem_def.mp hb] at hd
      exact absurd (Option.some.inj hd) hdash
  | false =>
    have hitem : itemAt before c (more ++ rest) = .token .word chars more.length := hstart
    have hdash : c ≠ '-' := by
      rintro rfl
      cases hitem
    rw [mayOpenPattern_run_iff (List.cons_ne_nil c more) hvalues hflag fun _ _ _ heq =>
      hdash (Option.some.inj heq)]
    rintro (⟨hs, -⟩ | ⟨hs, -⟩)
    · exact hdash (hs.2 c List.mem_cons_self)
    · obtain ⟨kind, hkind, hat⟩ :=
        itemAt_operatorWord before hs (hs.atWordEnd_behind hstart hrest)
      rw [hat] at hitem
      cases hitem
      exact hkind rfl

theorem Token.Begins.extract_eq (h : s.Begins text before c more rest) :
    text.extract s.start s.stop = c :: more := by
  have hsize : s.stop - s.start = (c :: more).length := by
    rw [h.stop_eq, h.start_eq, List.length_cons]
    omega
  rw [List.extract_eq_take_drop, hsize, h.drop_start, ← List.cons_append, List.take_left]

/-- **Where a pattern may begin, read off the tokens.** -/
theorem Reached.mayOpenPattern_iff (h : Reached text ts value before ('/' :: tail)) :
    mayOpenPattern before = true ↔ ∀ s ∈ ts.getLast?, s.LetsPatternBegin text := by
  rcases h.lastToken with ⟨rfl, -, hgaps⟩ | ⟨pre, s, v, near, d, more, gaps, rfl, rfl, hgaps, -,
    hlast, hstart, hbegins⟩
  · have hopen : mayOpenPattern before = true := by
      rw [← List.append_nil before, mayOpenPattern_gaps fun b hb => isBlank_of_isGap (hgaps b hb)]
      rfl
    exact ⟨fun _ => nofun, fun _ => hopen⟩
  · have hlexeme : more.reverse ++ d :: near = (d :: more).reverse ++ near := by simp
    have hrest : ∀ b ∈ (gaps.reverse ++ '/' :: tail).head?, isGap b = true ∨ b = '/' := by
      intro b hb
      rw [List.head?_append] at hb
      rcases Option.or_eq_some_iff.mp hb with hb | ⟨-, hb⟩
      · exact .inl (hgaps b (List.mem_reverse.mp (List.mem_of_mem_head? hb)))
      · exact .inr (Option.some.inj hb).symm
    have hiff : mayOpenPattern ((d :: more).reverse ++ near) = true ↔
        s.kind.LetsPatternBegin (d :: more) near :=
      hbegins.spells.mayOpenPattern_iff fun hkind =>
        hlast.mayOpenPattern_word (hkind ▸ hstart) (hkind ▸ hbegins.spells) hrest
    rw [mayOpenPattern_gaps fun b hb => isBlank_of_isGap (hgaps b hb), hlexeme, hiff,
      List.getLast?_concat]
    simp only [Option.mem_def, Option.some.injEq, forall_eq']
    rw [Token.LetsPatternBegin, hbegins.extract_eq, hbegins.take_start, List.reverse_reverse]

/-- **What begins at a slash where a term may stand.** -/
theorem itemAt_slash (h : itemAt before '/' tail = .token kind chars n) :
    ((∃ flags, kind = .pattern flags) ↔ mayOpenPattern before = true ∧ ¬ Broken '/' tail)
      ∧ (kind = .word ↔ ¬ (mayOpenPattern before = true ∧ ¬ Broken '/' tail)) := by
  have hitem : itemAt before '/' tail
      = (if mayOpenPattern before then patternAt tail else .nothing).orElse (wordAt '/' tail) := rfl
  rw [hitem] at h
  by_cases hopens : mayOpenPattern before = true ∧ ¬ Broken '/' tail
  · have hkind : ∃ flags, kind = .pattern flags := by
      rw [if_pos hopens.1] at h
      cases hat : patternAt tail with
      | nothing => exact absurd (patternAt_eq_nothing_iff.mp hat) hopens.2
      | unclosed p =>
        rw [hat] at h
        cases h
      | token =>
        rw [hat] at h
        cases h
        exact patternAt_kind hat
    refine ⟨iff_of_true hkind hopens, iff_of_false ?_ (not_not.mpr hopens)⟩
    rintro rfl
    obtain ⟨flags, hflags⟩ := hkind
    cases hflags
  · have hkind : kind = .word := by
      have hnone : (if mayOpenPattern before then patternAt tail else .nothing) = .nothing := by
        split
        · rw [patternAt_eq_nothing_iff]
          by_contra hbroken
          exact hopens ⟨‹_›, hbroken⟩
        · rfl
      rw [hnone] at h
      exact (wordAt_eq_token h).1
    refine ⟨iff_of_false ?_ hopens, iff_of_true hkind hopens⟩
    rintro ⟨flags, hflags⟩
    rw [hkind] at hflags
    cases hflags

end Queries

/-- A pattern opens at a place behind some tokens: the last of them lets one begin, or there is none,
and the pattern is not broken. -/
def OpensPattern (text : List Char) (pre : List Token) (i : Nat) : Prop :=
  (∀ s ∈ pre.getLast?, s.LetsPatternBegin text) ∧ ¬ Broken '/' (text.drop (i + 1))

/-- Right behind an operator there is a value. -/
theorem Reached.value_eq_false {text before rest : List Char} {ts : List Token} {value : Bool}
    (h : Reached text ts value before rest)
    (hvalue : ∀ s ∈ ts.getLast?, ¬ (s.kind.takesValue = true ∧ s.stop = before.length)) :
    value = false := by
  rcases h.lastToken with ⟨-, hfalse, -⟩ | ⟨pre, s, v, near, d, more, gaps, rfl, rfl, -, rfl, -, -,
    hbegins⟩
  · exact hfalse
  rw [Bool.and_eq_false_iff, ← Bool.not_eq_true, ← Bool.not_eq_true, ← not_and_or]
  rintro ⟨hkind, hgaps⟩
  obtain rfl : gaps = [] := List.isEmpty_iff.mp hgaps
  refine hvalue s List.getLast?_concat ⟨hkind, ?_⟩
  rw [hbegins.stop_eq]
  simp
  omega

/-- **Where a slash opens a pattern.**  A token of a query that begins with a slash and is not the
value of a comparison is a pattern exactly if a pattern opens there, and otherwise a word. -/
theorem slash_opens_pattern {query : String} {ts : List Token} (h : tokenize query = .ok ts) :
    ∀ pre t post, ts = pre ++ t :: post → query.toList[t.start]? = some '/' →
      (∀ s ∈ pre.getLast?, ¬ (s.kind.takesValue = true ∧ t.follows s = true)) →
        ((∃ flags, t.kind = .pattern flags) ↔ OpensPattern query.toList pre t.start)
          ∧ (t.kind = .word ↔ ¬ OpensPattern query.toList pre t.start) := by
  intro pre t post hts hslash hvalue
  have hcuts := tokenize_eq_ok_iff.mp h
  split at hcuts
  · simp [hcuts] at hts
  obtain ⟨value, before, c, more, rest, hreached, hstart, hbegins⟩ :=
    Reached.start.cuts hcuts rfl hts
  rw [List.nil_append] at hreached
  have hget := hreached.getElem?_length
  rw [← hbegins.start_eq, hslash] at hget
  obtain rfl : '/' = c := Option.some.inj hget
  obtain rfl : value = false := by
    refine hreached.value_eq_false fun s hs hadjacent => hvalue s hs ⟨hadjacent.1, ?_⟩
    rw [Token.follows, hbegins.start_eq, hadjacent.2, beq_self_eq_true]
  rw [OpensPattern, ← hreached.mayOpenPattern_iff, hbegins.drop_start_add_one]
  exact itemAt_slash hstart

/-- A slash between words, and one behind an operator. -/
def fireSlashIce : String := "fire / ice OR /a/"

theorem fireSlashIce_opens :
    tokenize fireSlashIce = .ok [⟨.word, "fire", 0, 4⟩, ⟨.word, "/", 5, 6⟩, ⟨.word, "ice", 7, 10⟩,
        ⟨.or, "OR", 11, 13⟩, ⟨.pattern "", "a", 14, 17⟩]
      ∧ ¬ OpensPattern fireSlashIce.toList [⟨.word, "fire", 0, 4⟩] 5
      ∧ OpensPattern fireSlashIce.toList
        [⟨.word, "fire", 0, 4⟩, ⟨.word, "/", 5, 6⟩, ⟨.word, "ice", 7, 10⟩, ⟨.or, "OR", 11, 13⟩]
        14 := by
  have htokens : (tokenize fireSlashIce).toOption
      = some [⟨.word, "fire", 0, 4⟩, ⟨.word, "/", 5, 6⟩, ⟨.word, "ice", 7, 10⟩, ⟨.or, "OR", 11, 13⟩,
        ⟨.pattern "", "a", 14, 17⟩] := by
    decide +kernel
  have hok := eq_ok_of_toOption htokens
  have hslash := slash_opens_pattern hok
  obtain ⟨-, hword⟩ := hslash [⟨.word, "fire", 0, 4⟩] ⟨.word, "/", 5, 6⟩ _ rfl (by decide +kernel)
    (by decide)
  obtain ⟨hpattern, -⟩ := hslash
    [⟨.word, "fire", 0, 4⟩, ⟨.word, "/", 5, 6⟩, ⟨.word, "ice", 7, 10⟩, ⟨.or, "OR", 11, 13⟩]
    ⟨.pattern "", "a", 14, 17⟩ _ rfl (by decide +kernel) (by decide)
  exact ⟨hok, hword.mp rfl, hpattern.mp ⟨"", rfl⟩⟩

/-- **A pattern may open behind an exact name, and a word behind a dash.**  The name of the first
query looks like an operator, and the dash of the second one does not. -/
theorem exactName_opens_pattern :
    tokenize "! or /a/" = .ok [⟨.exactName, "or", 0, 4⟩, ⟨.pattern "", "a", 5, 8⟩]
      ∧ tokenize "\"a\"-/b/"
        = .ok [⟨.quoted, "a", 0, 3⟩, ⟨.not, "-", 3, 4⟩, ⟨.word, "/b/", 4, 7⟩] := by
  have hname : (tokenize "! or /a/").toOption
      = some [⟨.exactName, "or", 0, 4⟩, ⟨.pattern "", "a", 5, 8⟩] := by
    decide +kernel
  have hdash : (tokenize "\"a\"-/b/").toOption
      = some [⟨.quoted, "a", 0, 3⟩, ⟨.not, "-", 3, 4⟩, ⟨.word, "/b/", 4, 7⟩] := by
    decide +kernel
  exact ⟨eq_ok_of_toOption hname, eq_ok_of_toOption hdash⟩

end CardQuery

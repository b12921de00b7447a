import CardQuery.Proofs.Lexer.LookBack
import Mathlib.Data.List.TakeWhile

/-!
# Proofs/Lexer/Enclosing — what stands around a text changes none of its tokens

* `Cuts.placed` — a text that is cut into tokens is cut into the same tokens at its place in another
  text, if a pattern may begin in front of it and a word ends behind it.
* `Cuts.group` — so it is between parentheses.

No name, word or flags go on where a word ends, so that what begins at a character of the text stays
what it was, unless it was never closed (`Start.Persists`).  A pattern may begin in the text behind
an operator as it may at the start (`mayOpenPattern_append`).

Only an exclamation mark at the end of the text looks further: blanks and a word behind it make it
the mark of an exact name.
-/

namespace CardQuery

open Text

/-! ## The same thing begins -/

/-- **The same thing begins in another text**, or something that is never closed in the first. -/
def Start.Persists (s s' : Start) : Prop := (∃ p, s = .unclosed p) ∨ s' = s

namespace Start.Persists

theorem refl (s : Start) : s.Persists s := .inr rfl

/-- What is closed, or nothing, begins in the other text too. -/
theorem eq_of_closes {s s' t : Start} (h : s.Persists s') (hs : s = t)
    (hclosed : ∀ p, t ≠ .unclosed p) : s' = t := by
  rcases h with ⟨p, hp⟩ | rfl
  · exact absurd (hs.symm.trans hp) (hclosed p)
  · exact hs

theorem orElse {s s' t t' : Start} (hs : s.Persists s') (ht : t.Persists t') :
    (s.orElse t).Persists (s'.orElse t') := by
  rcases hs with ⟨p, rfl⟩ | rfl
  · exact .inl ⟨p, rfl⟩
  · rcases s' with _ | _ | _
    · exact refl _
    · exact refl _
    · exact ht

theorem ite {s s' t t' : Start} {p : Prop} [Decidable p] (hs : p → s.Persists s')
    (ht : t.Persists t') : (if p then s else t).Persists (if p then s' else t') := by
  split
  · exact hs ‹_›
  · exact ht

end Start.Persists

/-! ## Where a run stops -/

section Stops

variable {p : Char → Bool} {s after : List Char}

/-- A run is over at its end or where the text behind it begins with another character. -/
theorem takeWhile_append_stop
    (h : s.dropWhile p = [] → ∀ d ∈ after.head?, p d = false) :
    (s ++ after).takeWhile p = s.takeWhile p := by
  induction s with
  | nil =>
    rcases after with _ | ⟨d, after⟩
    · rfl
    · simp [h rfl d rfl]
  | cons c s ih =>
    by_cases hc : p c = true
    · have hs := ih fun hnil => h (by rw [List.dropWhile_cons_of_pos hc, hnil])
      rw [List.cons_append, List.takeWhile_cons_of_pos hc, List.takeWhile_cons_of_pos hc, hs]
    · rw [List.cons_append, List.takeWhile_cons_of_neg hc, List.takeWhile_cons_of_neg hc]

theorem dropWhile_append_stop
    (h : s.dropWhile p = [] → ∀ d ∈ after.head?, p d = false) :
    (s ++ after).dropWhile p = s.dropWhile p ++ after := by
  have hsplit := List.takeWhile_append_dropWhile (p := p) (l := s ++ after)
  rw [takeWhile_append_stop h] at hsplit
  refine List.append_cancel_left (hsplit.trans ?_)
  rw [← List.append_assoc, List.takeWhile_append_dropWhile]

theorem atWordEnd_append (hafter : atWordEnd after = true) :
    atWordEnd (s ++ after) = atWordEnd s := by
  rcases s with _ | ⟨c, s⟩
  · exact hafter
  · rfl

end Stops

/-! ## Behind the text -/

section Tail

variable {after : List Char} (hafter : atWordEnd after = true) (tail : List Char)

theorem quotationAt_persists (kind : TokenKind) (extra : Nat) (after : List Char) :
    (quotationAt kind extra tail).Persists (quotationAt kind extra (tail ++ after)) := by
  rw [quotationAt]
  rcases hbody : quotedBody? '"' tail with _ | body
  · exact .inl ⟨_, rfl⟩
  · obtain ⟨hguarded, more, rfl⟩ := guarded_of_quotedBody? hbody
    rw [quotationAt, List.append_assoc, List.cons_append, hguarded.quotedBody? (by decide)]
    exact .refl _

include hafter

/-- At the end of a word no class of value characters goes on. -/
theorem not_head_of_atWordEnd {p : Char → Bool} (hp : ∀ {c}, p c = true → isValueChar c = true) :
    ∀ d ∈ after.head?, p d = false := by
  intro d hd
  rw [← Bool.not_eq_true]
  intro hc
  have hvalue := isValueChar_of_atWordEnd hafter d hd
  rw [hp hc] at hvalue
  cases hvalue

theorem wordAt_persists (c : Char) : (wordAt c tail).Persists (wordAt c (tail ++ after)) := by
  rw [wordAt, wordAt, takeWhile_append_stop fun _ => not_head_of_atWordEnd hafter id]
  exact .refl _

theorem patternAt_persists : (patternAt tail).Persists (patternAt (tail ++ after)) := by
  rw [patternAt]
  rcases hbody : quotedBody? '/' tail with _ | body
  · exact .inl ⟨_, rfl⟩
  · obtain ⟨hguarded, more, rfl⟩ := guarded_of_quotedBody? hbody
    have hflags :
        ((body ++ '/' :: more ++ after).drop (body.length + 1)).takeWhile isFlagLetter
          = ((body ++ '/' :: more).drop (body.length + 1)).takeWhile isFlagLetter := by
      have hlen : body.length + 1 ≤ (body ++ '/' :: more).length := by
        rw [List.length_append, List.length_cons]
        omega
      rw [List.drop_append_of_le_length hlen]
      exact takeWhile_append_stop fun _ => not_head_of_atWordEnd hafter fun hc =>
        isValueChar_of_isWordChar (isWordChar_of_isFlagLetter hc)
    have hclosed : quotedBody? '/' (body ++ '/' :: more ++ after) = some body := by
      rw [List.append_assoc, List.cons_append, hguarded.quotedBody? (by decide)]
    rw [patternAt, hclosed]
    dsimp only
    rw [hflags]
    exact .refl _

theorem keywordAt_persists (kind : TokenKind) {word : List Char}
    (hword : ∀ w ∈ word, isNameStart w = true) (c : Char) :
    (keywordAt kind word c tail).Persists (keywordAt kind word c (tail ++ after)) := by
  rw [keywordAt, keywordAt]
  generalize hn : word.length - 1 = n
  rcases Nat.lt_or_ge tail.length n with hlt | hle
  · -- the word is not written within the text, nor with what is behind it
    have hshort : ((c :: tail.take n).map Char.toLower == word) = false := by
      refine beq_false_of_ne fun h => ?_
      have hlen := congrArg List.length h
      rw [List.length_map, List.length_cons, List.length_take] at hlen
      omega
    have hlong : ((c :: (tail ++ after).take n).map Char.toLower == word) = false := by
      rcases after with _ | ⟨d, after⟩
      · rwa [List.append_nil]
      refine beq_false_of_ne fun h => ?_
      have hd : d.toLower ∈ word := by
        obtain ⟨k, rfl⟩ := Nat.exists_eq_add_of_lt hlt
        have hk : tail.length + k + 1 - tail.length = k + 1 := by omega
        rw [← h, List.take_append, hk, List.take_succ_cons]
        simp
      have hvalue := isValueChar_of_atWordEnd hafter d rfl
      exact toLower_ne_of_isValueChar hvalue (hword _ hd) rfl
    rw [hshort, hlong]
    exact .refl _
  · rw [List.take_append_of_le_length hle, List.drop_append_of_le_length hle,
      atWordEnd_append hafter]
    exact .refl _

theorem operatorAt?_append : operatorAt? (tail ++ after) = operatorAt? tail := by
  have hnone : ∀ d ∈ after.head?, d ≠ '!' ∧ d ≠ '<' ∧ d ≠ '>' ∧ d ≠ ':' ∧ d ≠ '=' := by
    intro d hd
    have hvalue := isValueChar_of_atWordEnd hafter d hd
    refine ⟨?_, ?_, ?_, ?_, ?_⟩ <;> rintro rfl <;> exact absurd hvalue (by decide)
  rcases after with _ | ⟨d, after⟩
  · rw [List.append_nil]
  have hd := hnone d rfl
  fun_cases operatorAt? tail with
  | case6 tail hne | case7 tail hne =>
    rcases tail with _ | ⟨e, tail⟩
    · simp_all [operatorAt?]
    · simp_all [operatorAt?]
  | case8 tail =>
    rcases tail with _ | ⟨c, _ | ⟨e, tail⟩⟩
    · simp_all [operatorAt?]
    · simp_all [operatorAt?]
    · simp_all [operatorAt?]
  | _ => rfl

theorem comparisonAt_persists (c : Char) :
    (comparisonAt c tail).Persists (comparisonAt c (tail ++ after)) := by
  have hstop := not_head_of_atWordEnd hafter fun hc =>
    isValueChar_of_isWordChar (isWordChar_of_isNameChar hc)
  rw [comparisonAt, comparisonAt, takeWhile_append_stop fun _ => hstop,
    dropWhile_append_stop fun _ => hstop, operatorAt?_append hafter]
  exact .refl _

/-- A mark persists unless there are only blanks between it and others. -/
theorem exactNameAt_persists
    (hmark : tail.dropWhile isBlank = [] → ∀ d ∈ after.head?, isBlank d = false) :
    (exactNameAt tail).Persists (exactNameAt (tail ++ after)) := by
  rw [exactNameAt, exactNameAt, takeWhile_append_stop hmark, dropWhile_append_stop hmark]
  rcases tail.dropWhile isBlank with _ | ⟨d, more⟩
  · rcases after with _ | ⟨d, after⟩
    · exact .refl _
    · have hvalue := isValueChar_of_atWordEnd hafter d rfl
      have hquote : ¬ (d == '"') = true := by
        intro heq
        rw [eq_of_beq heq] at hafter
        cases hafter
      refine .inr ?_
      rw [List.nil_append]
      dsimp only
      rw [if_neg hquote, List.takeWhile_cons_of_neg (by simp [hvalue])]
      rfl
  · dsimp only [List.cons_append]
    rw [← List.cons_append, takeWhile_append_stop fun _ => not_head_of_atWordEnd hafter id]
    exact .ite (fun _ => quotationAt_persists more _ _ after) (.refl _)

theorem valueAt_persists (c : Char) :
    (valueAt c tail).Persists (valueAt c (tail ++ after)) :=
  .ite (fun _ => quotationAt_persists tail _ _ after)
    (.ite (fun _ => (patternAt_persists hafter tail).orElse (wordAt_persists hafter tail c))
      (wordAt_persists hafter tail c))

end Tail

/-! ## In front of the text -/

/-- **A text that others may be cut behind as if they stood alone**, given nearest first: nothing of
its last token could go on, and a pattern may begin. -/
structure Fresh (outer : List Char) : Prop where
  standsApart : StandsApart outer.head?
  opens : mayOpenPattern outer = true

theorem fresh_nil : Fresh [] := ⟨nofun, rfl⟩

theorem fresh_opening (outer : List Char) : Fresh ('(' :: outer) where
  standsApart b hb := by
    cases hb
    exact .inr rfl
  opens := rfl

/-- Behind a blank and an operator word. -/
theorem fresh_operatorWord {c : Char} (hc : isBlank c = true) {word near : List Char}
    (hword : IsOperatorWord word) (hnear : atWordEnd near = true) :
    Fresh (c :: word.reverse ++ near) where
  standsApart b hb := by
    cases hb
    exact .inl hc
  opens := by
    have hgap : mayOpenPattern ([c] ++ (word.reverse ++ near)) = mayOpenPattern (word.reverse ++ near) :=
      mayOpenPattern_gaps (by simpa using hc)
    exact hgap.trans ((mayOpenPattern_operatorWord hword).trans hnear)

theorem StandsApart.atWordEnd {outer : List Char} (h : StandsApart outer.head?) :
    atWordEnd outer = true := by
  rcases outer with _ | ⟨b, outer⟩
  · rfl
  · rcases h b rfl with hb | rfl
    · simp [CardQuery.atWordEnd, hb]
    · rfl

section Before

variable {outer after : List Char} (houter : Fresh outer) (hafter : atWordEnd after = true)
  (before : List Char)

include houter

/-- **A pattern may begin behind a text as it may at the start.** -/
theorem mayOpenPattern_append : mayOpenPattern (before ++ outer) = mayOpenPattern before := by
  have hend (s : List Char) : atWordEnd (s ++ outer) = atWordEnd s :=
    atWordEnd_append houter.standsApart.atWordEnd
  have hvalue := isValueChar_of_atWordEnd houter.standsApart.atWordEnd
  have hletter {w : Char} (hw : isNameStart w = true) : ∀ b ∈ outer.head?, b.toLower ≠ w :=
    fun b hb => toLower_ne_of_isValueChar (hvalue b hb) hw
  rcases hnear : before.dropWhile isBlank with _ | ⟨c, near⟩
  · -- nothing but blanks stands behind the other text
    have hblank : ∀ b ∈ before, isBlank b = true := List.dropWhile_eq_nil_iff.mp hnear
    rw [mayOpenPattern_gaps hblank, houter.opens, mayOpenPattern, hnear]
  rw [mayOpenPattern, mayOpenPattern, dropWhile_append_stop (by simp [hnear]), hnear]
  by_cases hopen : c = '('
  · subst hopen
    rfl
  by_cases hdash : c = '-'
  · subst hdash
    have hdashes : (near ++ outer).dropWhile (· == '-') = near.dropWhile (· == '-') ++ outer :=
      dropWhile_append_stop fun _ d hd => by
        refine beq_false_of_ne ?_
        rintro rfl
        exact absurd (hvalue _ hd) (by decide)
    simp only [List.cons_append, hdashes]
    rcases near.dropWhile (· == '-') with _ | ⟨d, near⟩
    · rcases outer with _ | ⟨b, outer⟩
      · rfl
      · simpa using houter.standsApart b rfl
    · rfl
  rcases near with _ | ⟨d, near⟩
  · rcases outer with _ | ⟨b, outer⟩
    · rfl
    · have ho := hletter (w := 'o') (by decide) b rfl
      have hn := hletter (w := 'n') (by decide) b rfl
      simp [hopen, hdash, ho, hn]
  · simp only [List.cons_append, hend]
    rcases near with _ | ⟨e, near⟩
    · rcases outer with _ | ⟨b, outer⟩
      · rfl
      · have ha := beq_false_of_ne (hletter (w := 'a') (by decide) b rfl)
        simp [ha]
    · simp only [List.cons_append, hend]

include hafter

theorem itemAt_persists (c : Char) (tail : List Char)
    (hmark : c = '!' → tail.dropWhile isBlank = [] → ∀ d ∈ after.head?, isBlank d = false) :
    (itemAt before c tail).Persists (itemAt (before ++ outer) c (tail ++ after)) := by
  have hword := wordAt_persists hafter tail c
  rw [itemAt, itemAt, mayOpenPattern_append houter]
  refine .ite (fun _ => .refl _) (.ite (fun _ => .refl _) (.ite
    (fun _ => quotationAt_persists tail _ _ after) (.ite (fun _ => .refl _)
      (.ite (fun hc => ?_) (.ite (fun _ => ?_) ?_)))))
  · exact (exactNameAt_persists hafter tail (hmark (eq_of_beq hc))).orElse hword
  · exact (Start.Persists.ite (fun _ => patternAt_persists hafter tail) (.refl _)).orElse hword
  · have hor : ∀ w ∈ ['o', 'r'], isNameStart w = true := List.all_eq_true.mp rfl
    have hand : ∀ w ∈ ['a', 'n', 'd'], isNameStart w = true := List.all_eq_true.mp rfl
    exact (keywordAt_persists hafter tail .or hor c).orElse
      ((keywordAt_persists hafter tail .and hand c).orElse
        ((comparisonAt_persists hafter tail c).orElse hword))

/-- **The same thing begins at a character of the text.** -/
theorem startAt_persists (value : Bool) (c : Char) (tail : List Char)
    (hmark : c = '!' → tail.dropWhile isBlank = [] → ∀ d ∈ after.head?, isBlank d = false) :
    (startAt value before c tail).Persists
      (startAt value (before ++ outer) c (tail ++ after)) :=
  (Start.Persists.ite (fun _ => valueAt_persists hafter tail c) (.refl _)).orElse
    (itemAt_persists houter hafter before c tail hmark)

end Before

/-! ## Groups -/

/-- A token some places later. -/
def Token.shift (k : Nat) (t : Token) : Token := { t with start := k + t.start, stop := k + t.stop }

/-- Whether a token is an exclamation mark on its own. -/
def Token.isMark (t : Token) : Bool := t.kind == .word && t.text == "!"

/-- Whether the last token is an exclamation mark on its own. -/
def endsInMark (ts : List Token) : Bool := ts.getLast?.any Token.isMark

theorem endsInMark_of_tail {t : Token} {ts : List Token} (h : endsInMark (t :: ts) = false) :
    endsInMark ts = false := by
  cases ts with
  | nil => rfl
  | cons u ts => exact h

/-- A mark with nothing but blanks behind it is a word. -/
theorem startAt_mark (value : Bool) (before : List Char) {tail : List Char}
    (htail : tail.dropWhile isBlank = []) :
    startAt value before '!' tail = .token .word ['!'] 0 := by
  have hstop : tail.takeWhile isValueChar = [] := by
    rcases tail with _ | ⟨c, tail⟩
    · rfl
    · have hc := List.dropWhile_eq_nil_iff.mp htail c List.mem_cons_self
      refine List.takeWhile_cons_of_neg ?_
      rw [isValueChar_eq_false_iff.mpr (.inl hc)]
      nofun
  have hword : wordAt '!' tail = .token .word ['!'] 0 := by
    rw [wordAt, if_pos (by decide), hstop]
    rfl
  have hname : exactNameAt tail = .nothing := by
    rw [exactNameAt, htail]
  have hitem : itemAt before '!' tail = .token .word ['!'] 0 := by
    change (exactNameAt tail).orElse (wordAt '!' tail) = _
    rw [hname, hword]
    rfl
  rw [startAt, hitem]
  cases value
  · rfl
  · change (wordAt '!' tail).orElse _ = _
    rw [hword]
    rfl

/-- A blank text has no tokens. -/
theorem Cuts.eq_nil_of_blank {value : Bool} {before s : List Char} {place : Nat} {ts : List Token}
    (h : Cuts value before place s ts) (hs : ∀ c ∈ s, isBlank c = true) : ts = [] := by
  induction h with
  | done => rfl
  | gap _ _ _ ih => exact ih (List.forall_mem_cons.mp hs).2
  | token hstart _ _ _ =>
    have hblank := (List.forall_mem_cons.mp hs).1
    cases hstart.symm.trans (startAt_eq_nothing_iff.mpr (.inl hblank))

/-- A text is a query of the tokens that it is cut into. -/
theorem Cuts.tokenize_eq {text : String} {ts : List Token} (h : Cuts false [] 0 text.toList ts) :
    tokenize text = .ok ts := by
  refine tokenize_eq_ok_iff.mpr ?_
  split
  · rename_i hblank
    exact h.eq_nil_of_blank (List.all_eq_true.mp hblank)
  · exact h

/-- **In another text a text is cut into the same tokens**, if a pattern may begin in front of it, a
word ends behind it, and it does not end with a mark that blanks follow. -/
theorem Cuts.placed {value : Bool} {before s : List Char} {place : Nat} {ts : List Token}
    (h : Cuts value before place s ts) (k : Nat) {outer after : List Char} {us : List Token}
    (houter : Fresh outer) (hafter : atWordEnd after = true)
    (hmark : (∀ d ∈ after.head?, isBlank d = false) ∨ endsInMark ts = false)
    (hrest : ∀ value, Cuts value (s.reverse ++ before ++ outer) (k + place + s.length) after us) :
    Cuts value (before ++ outer) (k + place) (s ++ after) (ts.map (Token.shift k) ++ us) := by
  induction h with
  | @done value before place => exact hrest value
  | @gap value before place c tail ts hstart hgap _ ih =>
    have hstart' : startAt value (before ++ outer) c (tail ++ after) = .nothing := by
      refine (startAt_persists houter hafter before value c tail ?_).eq_of_closes hstart nofun
      rintro rfl htail
      cases hstart.symm.trans (startAt_mark value before htail)
    refine .gap hstart' hgap ?_
    have hplace : k + (place + 1) + tail.length = k + place + (c :: tail).length := by
      rw [List.length_cons]
      omega
    rw [← hplace] at hrest
    exact ih hmark (by simpa using hrest)
  | @token value before place c more tail kind text ts hstart hspells hcuts ih =>
    have hstart' : startAt value (before ++ outer) c (more ++ (tail ++ after))
        = .token kind text more.length := by
      rw [← List.append_assoc]
      refine (startAt_persists houter hafter before value c (more ++ tail) ?_).eq_of_closes hstart
        nofun
      rintro rfl htail
      refine hmark.resolve_right fun hlast => ?_
      -- the mark would be the last token
      have hself := hstart.symm.trans (startAt_mark value before htail)
      simp only [Start.token.injEq, List.length_eq_zero_iff] at hself
      obtain ⟨rfl, rfl, rfl⟩ := hself
      obtain rfl := hcuts.eq_nil_of_blank (List.dropWhile_eq_nil_iff.mp htail)
      cases hlast
    have hstop : k + (place + 1 + more.length) = k + place + 1 + more.length := by omega
    have hplace : k + place + (c :: (more ++ tail)).length
        = k + place + 1 + more.length + tail.length := by
      rw [List.length_cons, List.length_append]
      omega
    have hinner := ih (hmark.imp_right endsInMark_of_tail) (by rw [hstop, ← hplace]; simpa using hrest)
    rw [hstop] at hinner
    have htoken := Cuts.token hstart' hspells (by simpa using hinner)
    simpa [Token.shift, hstop] using htoken

/-- A closing parenthesis is a token, also where the value of a comparison is missing. -/
theorem startAt_closing (value : Bool) (before tail : List Char) :
    startAt value before ')' tail = .token .closing [')'] 0 := by
  cases value
  · rfl
  · rfl

/-- **Between parentheses a text is cut into the same tokens.** -/
theorem Cuts.enclosed {value : Bool} {before s : List Char} {place : Nat} {ts : List Token}
    (h : Cuts value before place s ts) (k : Nat) {outer rest : List Char} {us : List Token}
    (hrest : Cuts false (')' :: s.reverse ++ before ++ '(' :: outer) (k + place + s.length + 1)
      rest us) :
    Cuts value (before ++ '(' :: outer) (k + place) (s ++ ')' :: rest)
      (ts.map (Token.shift k)
        ++ ⟨.closing, ")", k + place + s.length, k + place + s.length + 1⟩ :: us) := by
  refine h.placed k (fresh_opening outer) rfl (.inl ?_) fun value => ?_
  · intro d hd
    cases hd
    rfl
  · have hclosing : Cuts value (s.reverse ++ before ++ '(' :: outer) (k + place + s.length)
        (')' :: ([] ++ rest)) _ := .token (startAt_closing value _ rest) .closing hrest
    exact hclosing

/-- The tokens of a group whose text has `n` characters and the tokens `ts` of its own. -/
def groupTokens (place n : Nat) (ts : List Token) : List Token :=
  ⟨.opening, "(", place, place + 1⟩ :: ts.map (Token.shift (place + 1))
    ++ [⟨.closing, ")", place + 1 + n, place + 1 + n + 1⟩]

/-- **A text in parentheses is cut into its own tokens and the parentheses**, whatever stands around
the group. -/
theorem Cuts.group {before s : List Char} {place : Nat} {ts : List Token}
    (h : Cuts false [] 0 s ts) {rest : List Char} {us : List Token}
    (hrest : Cuts false (')' :: s.reverse ++ '(' :: before) (place + 1 + s.length + 1) rest us) :
    Cuts false before place ('(' :: s ++ ')' :: rest) (groupTokens place s.length ts ++ us) := by
  have hinner : Cuts false ('(' :: before) (place + 1) (s ++ ')' :: rest) _ :=
    h.enclosed (place + 1) (by simpa using hrest)
  have hgroup : Cuts false before place ('(' :: ([] ++ (s ++ ')' :: rest))) _ :=
    .token rfl .opening hinner
  simpa [groupTokens] using hgroup

/-- A text that ends with a group. -/
theorem Cuts.lastGroup {s : List Char} {ts : List Token} (h : Cuts false [] 0 s ts)
    (before : List Char) (place : Nat) :
    Cuts false before place ('(' :: s ++ [')']) (groupTokens place s.length ts) := by
  have hgroup : Cuts false before place ('(' :: s ++ [')']) (groupTokens place s.length ts ++ []) :=
    h.group .done
  rwa [List.append_nil] at hgroup

end CardQuery

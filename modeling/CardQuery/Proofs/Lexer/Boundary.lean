import CardQuery.Proofs.Lexer.Tiling
import CardQuery.Proofs.Text.Digit
import CardQuery.Text.Word
import Mathlib.Data.List.Basic

/-!
# Proofs/Lexer/Boundary — where a token may end within a word

* `startAt_complete` — a token that ends with a word character goes as far as a value would, unless
  it is a pattern with flags.
* `Token.Begins.behindFlags_iff` — so there is a word character right before a token that a value
  could go on with exactly if the token stands right behind the flags of a pattern.

A word, a bare name and an operator word end where no value could go on; a quotation, a pattern
without flags, a parenthesis, a dash and the operator of a comparison end with no word character.
Only the flags of a pattern do neither.
-/

namespace CardQuery

open Text

/-! ## Classes of characters -/

/-- Whether two spans have no code point in common. -/
def spansApart (s t : Nat × Nat) : Bool := Nat.blt s.2 t.1 || Nat.blt t.2 s.1

theorem blankSpans_apart :
    (blankSpans.all fun s => spansApart s (0x5F, 0x5F) && alphanumericSpans.all (spansApart s))
      = true := by
  decide +kernel

/-- **No word character is white space.** -/
theorem isWordChar_of_isBlank {c : Char} (h : isBlank c = true) : isWordChar c = false := by
  obtain ⟨s, hs, hlo, hhi⟩ := Spans.exists_of_contains h
  have hapart := List.all_eq_true.mp blankSpans_apart s hs
  rw [Bool.and_eq_true, List.all_eq_true] at hapart
  rw [← Bool.not_eq_true]
  intro hword
  rcases Bool.or_eq_true_iff.mp hword with hline | hcontains
  · have hcode : c.toNat = 0x5F := eq_of_beq hline
    have hside := hapart.1
    simp only [spansApart, Bool.or_eq_true, Nat.blt_eq] at hside
    omega
  · obtain ⟨t, ht, htlo, hthi⟩ := Spans.exists_of_contains hcontains
    have hside := hapart.2 t ht
    simp only [spansApart, Bool.or_eq_true, Nat.blt_eq] at hside
    omega

/-- **A word character may stand in a bare value.** -/
theorem isValueChar_of_isWordChar {c : Char} (h : isWordChar c = true) : isValueChar c = true := by
  have hblank : isBlank c = false := by
    rw [← Bool.not_eq_true]
    intro hblank
    rw [isWordChar_of_isBlank hblank] at h
    cases h
  have hmarks : c ≠ '(' ∧ c ≠ ')' ∧ c ≠ '"' := by
    refine ⟨?_, ?_, ?_⟩
    · rintro rfl
      exact absurd h (by decide)
    · rintro rfl
      exact absurd h (by decide)
    · rintro rfl
      exact absurd h (by decide)
  simp [isValueChar, hblank, hmarks]

theorem not_isGap_of_isWordChar {c : Char} (h : isWordChar c = true) : ¬ isGap c = true := by
  intro hgap
  rw [isWordChar_of_isBlank (isBlank_of_isGap hgap)] at h
  cases h

theorem toNat_lt_of_isNameChar {c : Char} (h : isNameChar c = true) : c.toNat < 0x80 := by
  have hup {high : UInt32} (hhigh : high.toNat < 0x80) (hc : c.val ≤ high) : c.toNat < 0x80 :=
    Nat.lt_of_le_of_lt (UInt32.le_iff_toNat_le.mp hc) hhigh
  rcases Bool.or_eq_true_iff.mp h with h | h
  · rcases Bool.or_eq_true_iff.mp h with h | h
    · rcases Bool.or_eq_true_iff.mp h with h | h
      · exact hup (by decide : 'Z'.val.toNat < 0x80) (of_decide_eq_true h).2
      · exact hup (by decide : 'z'.val.toNat < 0x80)
          (of_decide_eq_true (Bool.and_eq_true_iff.mp h).2)
    · exact hup (by decide : '9'.val.toNat < 0x80)
        (of_decide_eq_true (Bool.and_eq_true_iff.mp h).2)
  · rw [eq_of_beq h]
    decide

/-- **A character of a name is a word character.** -/
theorem isWordChar_of_isNameChar {c : Char} (h : isNameChar c = true) : isWordChar c = true := by
  have hall : ∀ n < 0x80,
      isNameChar (Char.ofNat n) = true → isWordChar (Char.ofNat n) = true := by
    decide +kernel
  have hlow := hall c.toNat (toNat_lt_of_isNameChar h)
  rw [Char.ofNat_toNat] at hlow
  exact hlow h

theorem isNameChar_of_isNameStart {c : Char} (h : isNameStart c = true) : isNameChar c = true := by
  rw [isNameChar, Char.isAlphanum, Bool.or_right_comm]
  exact Bool.or_eq_true_iff.mpr (.inl h)

theorem isWordChar_of_isNameStart {c : Char} (h : isNameStart c = true) : isWordChar c = true :=
  isWordChar_of_isNameChar (isNameChar_of_isNameStart h)

theorem isValueChar_of_isNameStart {c : Char} (h : isNameStart c = true) :
    isValueChar c = true :=
  isValueChar_of_isWordChar (isWordChar_of_isNameStart h)

theorem isWordChar_of_isFlagLetter {c : Char} (h : isFlagLetter c = true) :
    isWordChar c = true := by
  have hall : (['g', 'i', 'm', 's', 'u', 'y'].all isWordChar) = true := by decide
  exact List.all_eq_true.mp hall c (List.contains_iff_mem.mp h)

/-- Operators end with no word character. -/
theorem isWordChar_of_mem_operator (op : CompareOp) :
    ∀ c ∈ op.text.toList, isWordChar c = false := by
  have hall : (op.text.toList.all fun c => !isWordChar c) = true := by
    cases op with
    | _ => decide
  intro c hc
  simpa using List.all_eq_true.mp hall c hc

/-- At the end of a word no value goes on. -/
theorem isValueChar_of_atWordEnd {s : List Char} (h : atWordEnd s = true) :
    ∀ c ∈ s.head?, isValueChar c = false := by
  intro c hc
  obtain ⟨s, rfl⟩ := List.head?_eq_some_iff.mp hc
  simp only [atWordEnd, Bool.or_eq_true, beq_iff_eq] at h
  rcases h with (hblank | rfl) | rfl
  · simp [isValueChar, hblank]
  · rfl
  · rfl

/-- Where a word does not end a value goes on, or there is a quote. -/
theorem atWordEnd_cons_eq_false_iff {c : Char} {tail : List Char} :
    atWordEnd (c :: tail) = false ↔ isValueChar c = true ∨ c = '"' := by
  by_cases hquote : c = '"'
  · subst hquote
    simp only [or_true, iff_true]
    rfl
  · simp [atWordEnd, isValueChar, hquote]

/-! ## Where a token ends -/

/-- **A token that ends with a word character ends where no value could go on**, or else with the
flags of a pattern. -/
def Start.Complete (c : Char) (tail : List Char) : Start → Prop
  | .token kind _ extra =>
    (∃ flags, kind = .pattern flags ∧ flags ≠ "")
      ∨ (∀ b ∈ (c :: tail.take extra).getLast?, isWordChar b = false)
      ∨ ∀ d ∈ (tail.drop extra).head?, isValueChar d = false
  | _ => True

section Starts

variable {c : Char} {tail : List Char}

theorem Start.Complete.orElse {s t : Start} (hs : s.Complete c tail) (ht : t.Complete c tail) :
    (s.orElse t).Complete c tail := by
  rcases s with _ | _ | _
  · exact hs
  · exact hs
  · exact ht

theorem Start.Complete.ite {s t : Start} {p : Prop} [Decidable p] (hs : p → s.Complete c tail)
    (ht : ¬ p → t.Complete c tail) : (if p then s else t).Complete c tail := by
  split
  · exact hs ‹_›
  · exact ht ‹_›

/-- A token that takes some characters, of which the last is no word character. -/
theorem Start.Complete.ofLast {kind : TokenKind} {text more rest : List Char} {n : Nat} {b : Char}
    (hn : n = (more ++ [b]).length) (hb : isWordChar b = false) :
    (Start.token kind text n).Complete c (more ++ b :: rest) := by
  have htake : (more ++ b :: rest).take n = more ++ [b] := by
    have happend : more ++ b :: rest = (more ++ [b]) ++ rest := by simp
    rw [happend, hn, List.take_left]
  refine .inr (.inl fun d hd => ?_)
  rw [htake, ← List.cons_append, List.getLast?_concat] at hd
  rwa [← Option.some.inj hd]

/-- A token that takes a run of value characters. -/
theorem Start.Complete.ofRun {kind : TokenKind} {text blanks s : List Char} {n : Nat}
    (hn : n = (blanks ++ s.takeWhile isValueChar).length) :
    (Start.token kind text n).Complete c (blanks ++ s) := by
  refine .inr (.inr fun d hd => ?_)
  have hdrop : (blanks ++ s).drop n = s.dropWhile isValueChar := by
    have happend :
        blanks ++ s = (blanks ++ s.takeWhile isValueChar) ++ s.dropWhile isValueChar := by
      rw [List.append_assoc, List.takeWhile_append_dropWhile]
    rw [happend, hn, List.drop_left]
  have hstop := List.head?_dropWhile_not isValueChar s
  rw [← hdrop, Option.mem_def.mp hd] at hstop
  exact hstop

theorem quotationAt_complete {kind : TokenKind} (before tail : List Char) {n : Nat}
    (hn : n = before.length) : (quotationAt kind n tail).Complete c (before ++ tail) := by
  rw [quotationAt]
  rcases hbody : quotedBody? '"' tail with _ | body
  · trivial
  obtain ⟨-, rest, rfl⟩ := guarded_of_quotedBody? hbody
  refine Start.Complete.ite (fun _ => trivial) fun _ => ?_
  rw [← List.append_assoc]
  exact .ofLast (by simp [hn]; omega) (by decide)

theorem patternAt_complete (tail : List Char) : (patternAt tail).Complete '/' tail := by
  rw [patternAt]
  rcases hbody : quotedBody? '/' tail with _ | body
  · trivial
  obtain ⟨-, rest, rfl⟩ := guarded_of_quotedBody? hbody
  refine Start.Complete.ite (fun _ => trivial) fun _ => ?_
  dsimp only
  cases hflags : ((body ++ '/' :: rest).drop (body.length + 1)).takeWhile isFlagLetter with
  | nil => exact .ofLast (by simp) (by decide)
  | cons flag flags => exact .inl ⟨_, rfl, by simp⟩

theorem wordAt_complete (c : Char) (tail : List Char) : (wordAt c tail).Complete c tail := by
  rw [wordAt]
  refine Start.Complete.ite (fun _ => ?_) fun _ => trivial
  have hrun : (Start.token .word (c :: tail.takeWhile isValueChar)
      (tail.takeWhile isValueChar).length).Complete c ([] ++ tail) := .ofRun rfl
  exact hrun

theorem keywordAt_complete (kind : TokenKind) (word : List Char) (c : Char) (tail : List Char) :
    (keywordAt kind word c tail).Complete c tail := by
  rw [keywordAt]
  refine Start.Complete.ite (fun hword => ?_) fun _ => trivial
  exact .inr (.inr (isValueChar_of_atWordEnd (Bool.and_eq_true_iff.mp hword).2))

theorem comparisonAt_complete (c : Char) (tail : List Char) :
    (comparisonAt c tail).Complete c tail := by
  rw [comparisonAt]
  refine Start.Complete.ite (fun _ => ?_) fun _ => trivial
  dsimp only
  rcases hop : operatorAt? (tail.dropWhile isNameChar) with _ | op
  · trivial
  obtain ⟨rest, hrest⟩ := operatorAt?_eq_some hop
  obtain ⟨symbol, b, hsymbol⟩ : ∃ symbol b, op.text.toList = symbol ++ [b] := by
    rcases List.eq_nil_or_concat op.text.toList with hnil | ⟨symbol, b, h⟩
    · cases op with
      | _ => cases hnil
    · exact ⟨symbol, b, by rw [h, List.concat_eq_append]⟩
  have htail : tail = (tail.takeWhile isNameChar ++ symbol) ++ b :: rest := by
    have hsplit : tail.takeWhile isNameChar ++ tail.dropWhile isNameChar = tail :=
      List.takeWhile_append_dropWhile
    rw [hrest, hsymbol] at hsplit
    simpa using hsplit.symm
  have hlast : isWordChar b = false :=
    isWordChar_of_mem_operator op b (by rw [hsymbol]; simp)
  have hcomplete : (Start.token (.comparison (String.ofList (c :: tail.takeWhile isNameChar)) op)
      (c :: tail.takeWhile isNameChar ++ op.text.toList)
      ((tail.takeWhile isNameChar).length + op.text.toList.length)).Complete c
        ((tail.takeWhile isNameChar ++ symbol) ++ b :: rest) :=
    .ofLast (by rw [hsymbol]; simp) hlast
  rwa [← htail] at hcomplete

theorem exactNameAt_complete (tail : List Char) : (exactNameAt tail).Complete '!' tail := by
  rw [exactNameAt]
  have hsplit : tail.takeWhile isBlank ++ tail.dropWhile isBlank = tail :=
    List.takeWhile_append_dropWhile
  rcases hrest : tail.dropWhile isBlank with _ | ⟨d, rest⟩
  · trivial
  rw [hrest] at hsplit
  dsimp only
  split
  · rename_i hd
    obtain rfl : d = '"' := eq_of_beq hd
    have h : (quotationAt .exactName ((tail.takeWhile isBlank).length + 1) rest).Complete '!'
        ((tail.takeWhile isBlank ++ ['"']) ++ rest) := quotationAt_complete _ rest (by simp)
    rwa [List.append_assoc, List.singleton_append, hsplit] at h
  · refine Start.Complete.ite (fun _ => trivial) fun _ => ?_
    have h : (Start.token .exactName ((d :: rest).takeWhile isValueChar)
        ((tail.takeWhile isBlank).length + ((d :: rest).takeWhile isValueChar).length)).Complete
          '!' (tail.takeWhile isBlank ++ d :: rest) := .ofRun (by rw [List.length_append])
    rwa [hsplit] at h

theorem valueAt_complete (c : Char) (tail : List Char) : (valueAt c tail).Complete c tail := by
  rw [valueAt]
  refine .ite (fun _ => quotationAt_complete [] tail rfl) fun _ => .ite (fun hc => ?_) fun _ => ?_
  · rw [eq_of_beq hc]
    exact (patternAt_complete tail).orElse (wordAt_complete '/' tail)
  · exact wordAt_complete c tail

theorem itemAt_complete (before : List Char) (c : Char) (tail : List Char) :
    (itemAt before c tail).Complete c tail := by
  have hmark (kind : TokenKind) (hc : isWordChar c = false) :
      (Start.token kind [c] 0).Complete c tail := by
    refine .inr (.inl fun b hb => ?_)
    rwa [← Option.some.inj hb]
  rw [itemAt]
  refine .ite (fun hc => ?_) fun _ => .ite (fun hc => ?_) fun _ => .ite (fun _ => ?_) fun _ =>
    .ite (fun hc => ?_) fun _ => .ite (fun hc => ?_) fun _ => .ite (fun hc => ?_) fun _ => ?_
  · exact hmark .opening (by rw [eq_of_beq hc]; decide)
  · exact hmark .closing (by rw [eq_of_beq hc]; decide)
  · exact quotationAt_complete [] tail rfl
  · exact hmark .not (by rw [eq_of_beq hc]; decide)
  · rw [eq_of_beq hc]
    exact (exactNameAt_complete tail).orElse (wordAt_complete '!' tail)
  · rw [eq_of_beq hc]
    exact .orElse (.ite (fun _ => patternAt_complete tail) fun _ => trivial)
      (wordAt_complete '/' tail)
  · exact (keywordAt_complete .or _ c tail).orElse
      ((keywordAt_complete .and _ c tail).orElse
        ((comparisonAt_complete c tail).orElse (wordAt_complete c tail)))

/-- **A token that begins at a character is complete.** -/
theorem startAt_complete (value : Bool) (before : List Char) (c : Char) (tail : List Char) :
    (startAt value before c tail).Complete c tail :=
  .orElse (.ite (fun _ => valueAt_complete c tail) fun _ => trivial) (itemAt_complete before c tail)

end Starts

/-! ## Where a token begins -/

/-- **A token begins in a text at a character**, with what stands before it, nearest first, and
after it. -/
structure Token.Begins (t : Token) (text before : List Char) (c : Char) (more rest : List Char) :
    Prop where
  text_eq : text = before.reverse ++ c :: (more ++ rest)
  start_eq : t.start = before.length
  stop_eq : t.stop = before.length + 1 + more.length
  starts : ∃ value, startAt value before c (more ++ rest) = .token t.kind t.text.toList more.length
  spells : Spells t.kind t.text.toList (c :: more)

/-- **A token begins in the text that it is cut from**, and the tokens behind it are cut from what
stands behind it. -/
theorem Cuts.behind {value : Bool} {before s : List Char} {place : Nat} {ts pre post : List Token}
    {t : Token} (h : Cuts value before place s ts) (hplace : place = before.length)
    (hts : ts = pre ++ t :: post) :
    ∃ near c more rest, t.Begins (before.reverse ++ s) near c more rest
      ∧ Cuts t.kind.takesValue (more.reverse ++ c :: near) t.stop rest post := by
  induction h generalizing pre with
  | done => simp at hts
  | @gap value before place c tail ts _ _ _ ih =>
    have htext : (c :: before).reverse ++ tail = before.reverse ++ c :: tail := by simp
    rw [← htext]
    exact ih (by rw [hplace]; rfl) hts
  | @token value before place c more rest kind text ts hstart hspells hcuts ih =>
    cases pre with
    | nil =>
      obtain ⟨rfl, rfl⟩ := List.cons.inj hts
      refine ⟨before, c, more, rest, ⟨rfl, hplace, by rw [hplace], ⟨value, ?_⟩, ?_⟩, hcuts⟩
      · rw [String.toList_ofList]
        exact hstart
      · rw [String.toList_ofList]
        exact hspells
    | cons u pre =>
      obtain ⟨-, hts⟩ := List.cons.inj hts
      have htext : (more.reverse ++ c :: before).reverse ++ rest
          = before.reverse ++ c :: (more ++ rest) := by simp
      rw [← htext]
      refine ih ?_ hts
      rw [hplace, List.length_append, List.length_reverse, List.length_cons]
      omega

/-- Every token begins somewhere in the text that it is cut from. -/
theorem Cuts.begins {value : Bool} {before s : List Char} {place : Nat} {ts : List Token}
    (h : Cuts value before place s ts) (hplace : place = before.length) :
    ∀ t ∈ ts, ∃ near c more rest, t.Begins (before.reverse ++ s) near c more rest := by
  intro t ht
  obtain ⟨pre, post, hts⟩ := List.append_of_mem ht
  obtain ⟨near, c, more, rest, hbegins, -⟩ := h.behind hplace hts
  exact ⟨near, c, more, rest, hbegins⟩

/-- A token that stands right behind the flags of a pattern. -/
def Token.BehindFlags (ts : List Token) (t : Token) : Prop :=
  ∃ s ∈ ts, s.stop = t.start ∧ ∃ flags, s.kind = .pattern flags ∧ flags ≠ ""

section Begins

variable {text before more rest : List Char} {c : Char} {t : Token} {ts : List Token}

theorem Token.Begins.take_start (h : t.Begins text before c more rest) :
    text.take t.start = before.reverse := by
  rw [h.text_eq, h.start_eq, ← List.length_reverse, List.take_left]

theorem Token.Begins.drop_start (h : t.Begins text before c more rest) :
    text.drop t.start = c :: (more ++ rest) := by
  rw [h.text_eq, h.start_eq, ← List.length_reverse, List.drop_left]

theorem Token.Begins.getLast?_take_start (h : t.Begins text before c more rest) :
    (text.take t.start).getLast? = before.head? := by
  rw [h.take_start, List.getLast?_reverse]

/-- A text up to the end of a token, and after it. -/
theorem Token.Begins.split_stop (h : t.Begins text before c more rest) :
    text = (before.reverse ++ c :: more) ++ rest
      ∧ t.stop = (before.reverse ++ c :: more).length := by
  refine ⟨by rw [h.text_eq]; simp, ?_⟩
  rw [h.stop_eq, List.length_append, List.length_reverse, List.length_cons]
  omega

theorem Token.Begins.take_stop (h : t.Begins text before c more rest) :
    text.take t.stop = before.reverse ++ c :: more := by
  obtain ⟨htext, hstop⟩ := h.split_stop
  rw [htext, hstop, List.take_left]

theorem Token.Begins.drop_stop (h : t.Begins text before c more rest) :
    text.drop t.stop = rest := by
  obtain ⟨htext, hstop⟩ := h.split_stop
  rw [htext, hstop, List.drop_left]

theorem Token.Begins.complete (h : t.Begins text before c more rest) :
    (∃ flags, t.kind = .pattern flags ∧ flags ≠ "")
      ∨ (∀ b ∈ (c :: more).getLast?, isWordChar b = false)
      ∨ ∀ d ∈ rest.head?, isValueChar d = false := by
  obtain ⟨value, hstart⟩ := h.starts
  have hcomplete := startAt_complete value before c (more ++ rest)
  rw [hstart, Start.Complete, List.take_left, List.drop_left] at hcomplete
  exact hcomplete

/-- A pattern with flags ends with one. -/
theorem Token.Begins.isFlagLetter_last (h : t.Begins text before c more rest) {flags : String}
    (hkind : t.kind = .pattern flags) (hflags : flags ≠ "") :
    ∃ b ∈ (c :: more).getLast?, isFlagLetter b = true := by
  have hspells := h.spells
  rw [hkind] at hspells
  generalize c :: more = lexeme at hspells ⊢
  cases hspells with
  | @pattern body letters _ _ hletters =>
    rcases List.eq_nil_or_concat letters with hnil | ⟨letters, b, hconcat⟩
    · rw [hnil] at hflags
      exact absurd rfl hflags
    · rw [List.concat_eq_append] at hconcat
      subst hconcat
      have happend : '/' :: t.text.toList ++ '/' :: (letters ++ [b])
          = ('/' :: t.text.toList ++ '/' :: letters) ++ [b] := by simp
      rw [happend, List.getLast?_concat]
      exact ⟨b, rfl, hletters b (by simp)⟩

/-- The token that the character before another one belongs to ends where the other one begins. -/
theorem Cuts.exists_stop_eq (hcuts : Cuts false [] 0 text ts) (ht : t ∈ ts)
    (h : t.Begins text before c more rest) {b : Char} (hb : before.head? = some b)
    (hgap : isGap b = false) : ∃ s ∈ ts, s.stop = t.start := by
  obtain ⟨before, rfl⟩ := List.head?_eq_some_iff.mp hb
  have hstart : t.start = before.length + 1 := h.start_eq
  have hget : text[before.length]? = some b := by
    rw [h.text_eq, List.reverse_cons, List.append_assoc, ← List.length_reverse,
      List.getElem?_append_right (Nat.le_refl _), Nat.sub_self]
    rfl
  have hcovered : ∃ s ∈ ts, s.start ≤ before.length ∧ before.length < s.stop := by
    by_contra hnone
    have hisGap : isGap b = true := by
      refine hcuts.gaps [] rfl (Nat.zero_le before.length) hget fun s hs hin => hnone ⟨s, hs, hin⟩
    rw [hisGap] at hgap
    cases hgap
  obtain ⟨s, hs, hle, hlt⟩ := hcovered
  have hapart : s.stop ≤ t.start ∨ t.stop ≤ s.start ∨ s = t :=
    List.Pairwise.forall_of_forall_of_flip
      (R := fun a b => a.stop ≤ b.start ∨ b.stop ≤ a.start ∨ a = b)
      (fun _ _ => .inr (.inr rfl)) (hcuts.ordered.imp .inl)
      (hcuts.ordered.imp fun hle => .inr (.inl hle)) hs ht
  have hbound := (hcuts.bounds t ht).2.1
  refine ⟨s, hs, ?_⟩
  rcases hapart with hsteps | hsteps | heq
  · omega
  · omega
  · rw [heq] at hle
    omega

/-- **Right before a token with which a value could go on there is a word character exactly if the
token stands behind the flags of a pattern.** -/
theorem Token.Begins.behindFlags_iff (h : t.Begins text before c more rest)
    (hcuts : Cuts false [] 0 text ts) (ht : t ∈ ts) (hc : isValueChar c = true) :
    t.BehindFlags ts ↔ ∃ b ∈ before.head?, isWordChar b = true := by
  have hall : ∀ s ∈ ts, ∃ near d more rest, s.Begins text near d more rest := hcuts.begins rfl
  have hmeet {s : Token} {near mid last : List Char} {d : Char}
      (hs : s.Begins text near d mid last) (hstop : s.stop = t.start) :
      before.head? = (d :: mid).getLast? ∧ last.head? = some c := by
    have htake := hs.take_stop
    have hdrop := hs.drop_stop
    rw [hstop, h.take_start] at htake
    rw [hstop, h.drop_start] at hdrop
    refine ⟨?_, by rw [← hdrop]; rfl⟩
    rw [← List.getLast?_reverse, htake, List.getLast?_append_cons]
  constructor
  · rintro ⟨s, hs, hstop, flags, hkind, hflags⟩
    obtain ⟨near, d, mid, last, hbegins⟩ := hall s hs
    obtain ⟨b, hb, hflag⟩ := hbegins.isFlagLetter_last hkind hflags
    rw [(hmeet hbegins hstop).1]
    exact ⟨b, hb, isWordChar_of_isFlagLetter hflag⟩
  · rintro ⟨b, hb, hword⟩
    have hgap : isGap b = false := by simpa using not_isGap_of_isWordChar hword
    obtain ⟨s, hs, hstop⟩ := hcuts.exists_stop_eq ht h hb hgap
    obtain ⟨near, d, mid, last, hbegins⟩ := hall s hs
    obtain ⟨hlast, hnext⟩ := hmeet hbegins hstop
    rcases hbegins.complete with hflags | hend | hend
    · exact ⟨s, hs, hstop, hflags⟩
    · rw [hend b (by rw [← hlast]; exact hb)] at hword
      cases hword
    · rw [hend c hnext] at hc
      cases hc

end Begins

end CardQuery

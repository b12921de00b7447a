import CardQuery.Proofs.Lexer.Reached

/-!
# Proofs/Lexer/Unexpected — which characters begin no token

* `startAt_eq_nothing_iff` — nothing begins at white space, nor at the quote of a *broken* quotation:
  one with a closing quote, but with a backslash before a line break.  At every other character a
  token begins, or something that is never closed.
* `startAt_opensLiteral` — what is reported as never closed is a quotation, an exact name in quotes
  or a pattern, and nothing closes it.
* `tokenize_unexpected` — so a character is reported as unexpected exactly if it is white space that
  is no gap, or the quote of a broken quotation.

A broken quotation falls between the two readings of a quote.  It is closed, and so not one that is
reported as open; and it is not cut as a quotation, because there a backslash does not go with a line
break.
-/

namespace CardQuery

open Text

/-! ## Broken bodies -/

/-- **What stands behind a quote is broken**: it has a closing quote, and before it a backslash
before a line break. -/
def Broken (quote : Char) (tail : List Char) : Prop :=
  ∃ body rest, Guarded quote body ∧ tail = body ++ quote :: rest ∧ escapesBreak body = true

section Bodies

variable {quote : Char} {tail : List Char}

theorem quotedBody?_eq_some_iff (hquote : quote ≠ '\\') {body : List Char} :
    quotedBody? quote tail = some body ↔
      Guarded quote body ∧ ∃ rest, tail = body ++ quote :: rest := by
  refine ⟨guarded_of_quotedBody?, ?_⟩
  rintro ⟨hguarded, rest, rfl⟩
  exact hguarded.quotedBody? hquote rest

theorem quotedBody?_eq_none_iff (hquote : quote ≠ '\\') :
    quotedBody? quote tail = none ↔
      ¬ ∃ body rest, Guarded quote body ∧ tail = body ++ quote :: rest := by
  rw [Option.eq_none_iff_forall_ne_some]
  constructor
  · rintro hnone ⟨body, rest, hguarded, htail⟩
    exact hnone body ((quotedBody?_eq_some_iff hquote).mpr ⟨hguarded, rest, htail⟩)
  · intro hopen body hbody
    obtain ⟨hguarded, rest, htail⟩ := guarded_of_quotedBody? hbody
    exact hopen ⟨body, rest, hguarded, htail⟩

theorem broken_iff (hquote : quote ≠ '\\') :
    Broken quote tail ↔ ∃ body, quotedBody? quote tail = some body ∧ escapesBreak body = true := by
  constructor
  · rintro ⟨body, rest, hguarded, htail, hbreak⟩
    exact ⟨body, (quotedBody?_eq_some_iff hquote).mpr ⟨hguarded, rest, htail⟩, hbreak⟩
  · rintro ⟨body, hbody, hbreak⟩
    obtain ⟨hguarded, rest, htail⟩ := guarded_of_quotedBody? hbody
    exact ⟨body, rest, hguarded, htail, hbreak⟩

/-- What is not closed is something, and what is closed is nothing only if it is broken. -/
theorem elim_quotedBody?_eq_nothing_iff (hquote : quote ≠ '\\') (p : Problem)
    {closed : List Char → Start} (hclosed : ∀ body, closed body ≠ .nothing) :
    ((quotedBody? quote tail).elim (.unclosed p) fun body =>
        if escapesBreak body then .nothing else closed body) = .nothing ↔ Broken quote tail := by
  rw [broken_iff hquote]
  cases quotedBody? quote tail with
  | none => simp
  | some body => simp [hclosed]

theorem quotationAt_eq_nothing_iff (kind : TokenKind) (extra : Nat) :
    quotationAt kind extra tail = .nothing ↔ Broken '"' tail := by
  have hat : quotationAt kind extra tail = (quotedBody? '"' tail).elim (.unclosed .openQuotation)
      fun body => if escapesBreak body then .nothing
        else .token kind (unescape body) (extra + body.length + 1) := by
    rw [quotationAt]
    cases quotedBody? '"' tail with
    | none => rfl
    | some body => rfl
  rw [hat, elim_quotedBody?_eq_nothing_iff (by decide) _ (by simp)]

theorem patternAt_eq_nothing_iff : patternAt tail = .nothing ↔ Broken '/' tail := by
  have hat : patternAt tail = (quotedBody? '/' tail).elim (.unclosed .openPattern)
      fun body => if escapesBreak body then .nothing
        else
          let flags := (tail.drop (body.length + 1)).takeWhile isFlagLetter
          .token (.pattern (String.ofList flags)) body (body.length + 1 + flags.length) := by
    rw [patternAt]
    cases quotedBody? '/' tail with
    | none => rfl
    | some body => rfl
  rw [hat, elim_quotedBody?_eq_nothing_iff (by decide) _ (by simp)]

end Bodies

/-! ## Where nothing begins -/

section Nothing

variable {c : Char} {tail : List Char}

theorem Start.orElse_eq_nothing_iff {s t : Start} :
    s.orElse t = .nothing ↔ s = .nothing ∧ t = .nothing := by
  cases s with
  | nothing => exact ⟨fun h => ⟨rfl, h⟩, And.right⟩
  | _ => exact ⟨nofun, fun h => nomatch h.1⟩

theorem Start.orElse_eq_token {s t : Start} {kind : TokenKind} {chars : List Char} {n : Nat}
    (h : s.orElse t = .token kind chars n) :
    s = .token kind chars n ∨ s = .nothing ∧ t = .token kind chars n := by
  cases s with
  | nothing => exact .inr ⟨rfl, h⟩
  | _ => exact .inl h

theorem wordAt_eq_nothing_iff : wordAt c tail = .nothing ↔ isValueChar c = false := by
  rw [wordAt]
  split
  · simp_all
  · simp_all

/-- White space and the three marks that a word stops at may not stand in a value. -/
theorem isValueChar_eq_false_iff :
    isValueChar c = false ↔ isBlank c = true ∨ c = '(' ∨ c = ')' ∨ c = '"' := by
  simp only [isValueChar, Bool.and_eq_false_iff, Bool.not_eq_false', bne_eq_false_iff_eq, or_assoc]

/-- A letter in lower case is one in the other case too. -/
theorem isNameStart_of_toLower (h : isNameStart c.toLower = true) : isNameStart c = true := by
  by_cases hcapital : 0x41 ≤ c.toNat ∧ c.toNat ≤ 0x5A
  · have hupper : c.isUpper = true := by
      refine decide_eq_true ⟨UInt32.le_iff_toNat_le.mpr hcapital.1, ?_⟩
      exact UInt32.le_iff_toNat_le.mpr hcapital.2
    change (c.isUpper || c.isLower || c == '_') = true
    rw [hupper]
    rfl
  · rwa [toLower_eq_self (by omega)] at h

/-- A character that may stand in a value is none of these. -/
theorem isBlank_of_isValueChar (hc : isValueChar c = true) : isBlank c = false ∧ c ≠ '(' := by
  have hmark : ¬ (isBlank c = true ∨ c = '(' ∨ c = ')' ∨ c = '"') := by
    rw [← isValueChar_eq_false_iff, hc]
    nofun
  exact ⟨by simpa using fun h => hmark (.inl h), fun h => hmark (.inr (.inl h))⟩

/-- An operator word begins with its first letter. -/
theorem keywordAt_of_toLower_ne (kind : TokenKind) {w : Char} (hw : c.toLower ≠ w)
    (word : List Char) : keywordAt kind (w :: word) c tail = .nothing := by
  rw [keywordAt, if_neg]
  intro hword
  exact hw (List.cons.inj (eq_of_beq (Bool.and_eq_true_iff.mp hword).1)).1

/-- A character that may not stand in a value is no letter in another case. -/
theorem toLower_ne_of_isValueChar (hc : isValueChar c = false) {w : Char}
    (hw : isNameStart w = true) : c.toLower ≠ w := by
  rintro rfl
  have hvalue : isValueChar c = true := isValueChar_of_isNameStart (isNameStart_of_toLower hw)
  rw [hc] at hvalue
  cases hvalue

/-- No operator word begins at a character that may not stand in a value. -/
theorem keywordAt_eq_nothing (hc : isValueChar c = false) (kind : TokenKind) {w : Char}
    (hw : isNameStart w = true) (word : List Char) :
    keywordAt kind (w :: word) c tail = .nothing :=
  keywordAt_of_toLower_ne kind (toLower_ne_of_isValueChar hc hw) word

theorem comparisonAt_eq_nothing (hc : isValueChar c = false) : comparisonAt c tail = .nothing := by
  rw [comparisonAt, if_neg]
  intro hstart
  have hvalue : isValueChar c = true := isValueChar_of_isNameStart hstart
  rw [hc] at hvalue
  cases hvalue

variable {value : Bool} {before : List Char}

/-- Something begins at every character that may stand in a value. -/
theorem itemAt_ne_nothing (hc : isValueChar c = true) : itemAt before c tail ≠ .nothing := by
  have hword : wordAt c tail ≠ .nothing := by
    rw [ne_eq, wordAt_eq_nothing_iff, hc]
    nofun
  have hquote : c ≠ '"' := by
    rintro rfl
    cases hc
  rw [itemAt, if_neg (c := (c == '"') = true) (by simpa using hquote)]
  split
  · simp
  split
  · simp
  split
  · simp
  split
  · exact fun h => hword (Start.orElse_eq_nothing_iff.mp h).2
  split
  · exact fun h => hword (Start.orElse_eq_nothing_iff.mp h).2
  · simp only [ne_eq, Start.orElse_eq_nothing_iff, not_and]
    exact fun _ _ _ => hword

/-- Nothing begins at white space. -/
theorem itemAt_of_isBlank (hc : isBlank c = true) : itemAt before c tail = .nothing := by
  have hvalue : isValueChar c = false := isValueChar_eq_false_iff.mpr (.inl hc)
  have hmark {m : Char} (hm : isBlank m = false) : ¬ (c == m) = true := by
    intro heq
    rw [eq_of_beq heq, hm] at hc
    cases hc
  rw [itemAt, if_neg (hmark (by decide)), if_neg (hmark (by decide)), if_neg (hmark (by decide)),
    if_neg (hmark (by decide)), if_neg (hmark (by decide)), if_neg (hmark (by decide)),
    keywordAt_eq_nothing hvalue .or (by decide), keywordAt_eq_nothing hvalue .and (by decide),
    comparisonAt_eq_nothing hvalue, wordAt_eq_nothing_iff.mpr hvalue]
  rfl

/-- A quote begins a quotation, right behind an operator and elsewhere. -/
theorem startAt_quote :
    startAt value before '"' tail = quotationAt .quoted 0 tail := by
  cases value with
  | false => rfl
  | true =>
    change (quotationAt .quoted 0 tail).orElse (quotationAt .quoted 0 tail) = _
    cases hquotation : quotationAt .quoted 0 tail with
    | _ => rfl

/-- **Nothing begins at white space and at the quote of a broken quotation**, and only there. -/
theorem startAt_eq_nothing_iff :
    startAt value before c tail = .nothing ↔ isBlank c = true ∨ c = '"' ∧ Broken '"' tail := by
  by_cases hquote : c = '"'
  · rw [hquote, startAt_quote, quotationAt_eq_nothing_iff]
    simp [show isBlank '"' = false by decide]
  · simp only [hquote, false_and, or_false]
    constructor
    · intro hstart
      obtain ⟨-, hitem⟩ := Start.orElse_eq_nothing_iff.mp hstart
      have hvalue : isValueChar c = false := by
        rw [← Bool.not_eq_true]
        exact fun hc => itemAt_ne_nothing hc hitem
      rcases isValueChar_eq_false_iff.mp hvalue with hblank | rfl | rfl | hc
      · exact hblank
      · cases hitem
      · cases hitem
      · exact absurd hc hquote
    · intro hblank
      have hslash : ¬ (c == '/') = true := by
        intro heq
        rw [eq_of_beq heq] at hblank
        exact absurd hblank (by decide)
      have hvalueAt : valueAt c tail = .nothing := by
        rw [valueAt, if_neg (by simpa using hquote), if_neg hslash, wordAt_eq_nothing_iff]
        exact isValueChar_eq_false_iff.mpr (.inl hblank)
      rw [startAt, hvalueAt, itemAt_of_isBlank hblank, ite_self]
      rfl

end Nothing

/-! ## What is never closed -/

/-- **A text begins with something that is never closed**: a quotation, an exact name in quotes or a
pattern, without a quote or slash that would close it. -/
inductive OpenLiteral : Problem → List Char → Prop where
  | quotation {tail : List Char} :
      (¬ ∃ body rest, Guarded '"' body ∧ tail = body ++ '"' :: rest) →
      OpenLiteral .openQuotation ('"' :: tail)
  | exactName {blanks tail : List Char} :
      (∀ c ∈ blanks, isBlank c = true) →
      (¬ ∃ body rest, Guarded '"' body ∧ tail = body ++ '"' :: rest) →
      OpenLiteral .openQuotation ('!' :: blanks ++ '"' :: tail)
  | pattern {tail : List Char} :
      (¬ ∃ body rest, Guarded '/' body ∧ tail = body ++ '/' :: rest) →
      OpenLiteral .openPattern ('/' :: tail)

/-- **What is reported as open at a character is open there.** -/
def Start.OpensLiteral (c : Char) (tail : List Char) : Start → Prop
  | .unclosed p => OpenLiteral p (c :: tail)
  | _ => True

section Open

variable {c : Char} {tail : List Char}

theorem Start.OpensLiteral.orElse {s t : Start} (hs : s.OpensLiteral c tail)
    (ht : t.OpensLiteral c tail) : (s.orElse t).OpensLiteral c tail := by
  cases s with
  | nothing => exact ht
  | _ => exact hs

theorem Start.OpensLiteral.ite {s t : Start} {p : Prop} [Decidable p]
    (hs : p → s.OpensLiteral c tail) (ht : ¬ p → t.OpensLiteral c tail) :
    (if p then s else t).OpensLiteral c tail := by
  split
  · exact hs ‹_›
  · exact ht ‹_›

/-- A quotation whose quote stands somewhere behind the character. -/
theorem quotationAt_opensLiteral (kind : TokenKind) (extra : Nat) {rest : List Char}
    (h : (¬ ∃ body after, Guarded '"' body ∧ rest = body ++ '"' :: after) →
      OpenLiteral .openQuotation (c :: tail)) :
    (quotationAt kind extra rest).OpensLiteral c tail := by
  rw [quotationAt]
  cases hbody : quotedBody? '"' rest with
  | none => exact h ((quotedBody?_eq_none_iff (by decide)).mp hbody)
  | some body => exact .ite (fun _ => trivial) fun _ => trivial

theorem patternAt_opensLiteral : (patternAt tail).OpensLiteral '/' tail := by
  rw [patternAt]
  cases hbody : quotedBody? '/' tail with
  | none => exact .pattern ((quotedBody?_eq_none_iff (by decide)).mp hbody)
  | some body => exact .ite (fun _ => trivial) fun _ => trivial

theorem exactNameAt_opensLiteral : (exactNameAt tail).OpensLiteral '!' tail := by
  have hsplit : tail.takeWhile isBlank ++ tail.dropWhile isBlank = tail :=
    List.takeWhile_append_dropWhile
  rw [exactNameAt]
  cases hrest : tail.dropWhile isBlank with
  | nil => trivial
  | cons d rest =>
    refine .ite (fun hd => ?_) fun _ => .ite (fun _ => trivial) fun _ => trivial
    refine quotationAt_opensLiteral _ _ fun hopen => ?_
    rw [hrest, eq_of_beq hd] at hsplit
    rw [← hsplit]
    exact .exactName (List.all_eq_true.mp List.all_takeWhile) hopen

theorem wordAt_opensLiteral : (wordAt c tail).OpensLiteral c tail :=
  .ite (fun _ => trivial) fun _ => trivial

theorem keywordAt_opensLiteral (kind : TokenKind) (word : List Char) :
    (keywordAt kind word c tail).OpensLiteral c tail :=
  .ite (fun _ => trivial) fun _ => trivial

theorem comparisonAt_opensLiteral : (comparisonAt c tail).OpensLiteral c tail := by
  rw [comparisonAt]
  dsimp only
  cases operatorAt? (tail.dropWhile isNameChar) with
  | none => exact .ite (fun _ => trivial) fun _ => trivial
  | some op => exact .ite (fun _ => trivial) fun _ => trivial

/-- **What is reported as open is open**: a quotation, an exact name or a pattern begins at the
character, and nothing closes it. -/
theorem startAt_opensLiteral (value : Bool) (before : List Char) :
    (startAt value before c tail).OpensLiteral c tail := by
  have hquotation (hc : (c == '"') = true) : (quotationAt .quoted 0 tail).OpensLiteral c tail := by
    refine quotationAt_opensLiteral _ _ fun hopen => ?_
    rw [eq_of_beq hc]
    exact .quotation hopen
  have hpattern (hc : (c == '/') = true) : (patternAt tail).OpensLiteral c tail := by
    rw [eq_of_beq hc]
    exact patternAt_opensLiteral
  have hexactName (hc : (c == '!') = true) : (exactNameAt tail).OpensLiteral c tail := by
    rw [eq_of_beq hc]
    exact exactNameAt_opensLiteral
  have hvalue : (valueAt c tail).OpensLiteral c tail :=
    .ite hquotation fun _ =>
      .ite (fun hc => (hpattern hc).orElse wordAt_opensLiteral) fun _ => wordAt_opensLiteral
  have hitem : (itemAt before c tail).OpensLiteral c tail :=
    .ite (fun _ => trivial) fun _ => .ite (fun _ => trivial) fun _ => .ite hquotation fun _ =>
      .ite (fun _ => trivial) fun _ =>
      .ite (fun hc => (hexactName hc).orElse wordAt_opensLiteral) fun _ =>
      .ite (fun hc => .orElse (.ite (fun _ => hpattern hc) fun _ => trivial) wordAt_opensLiteral)
        fun _ =>
      (keywordAt_opensLiteral _ _).orElse ((keywordAt_opensLiteral _ _).orElse
        (comparisonAt_opensLiteral.orElse wordAt_opensLiteral))
  exact .orElse (.ite (fun _ => hvalue) fun _ => trivial) hitem

theorem openLiteral_of_unclosed {value : Bool} {before : List Char} {p : Problem}
    (h : startAt value before c tail = .unclosed p) : OpenLiteral p (c :: tail) := by
  have hopen : (startAt value before c tail).OpensLiteral c tail :=
    startAt_opensLiteral value before
  rw [h] at hopen
  exact hopen

end Open

/-! ## Queries -/

section Queries

variable {value : Bool} {before : List Char} {c : Char} {tail : List Char} {e : Problem × Place}

/-- The cutting halts with an unexpected character where nothing begins, and only there. -/
theorem Halts.kind_eq_iff (h : Halts value before c tail e) :
    e.1.kind = .unexpectedToken ↔
      e = (.unexpectedCharacter c, .span before.length (before.length + 1))
        ∧ startAt value before c tail = .nothing ∧ isGap c = false := by
  cases h with
  | unexpected hstart hgap => exact ⟨fun _ => ⟨rfl, hstart, hgap⟩, fun _ => rfl⟩
  | unclosed hstart =>
    refine ⟨fun hkind => ?_, fun h => ?_⟩
    · cases openLiteral_of_unclosed hstart with
      | _ => cases hkind
    · rw [hstart] at h
      exact nomatch h.2.1

/-- A character that is reached stands at the place that is reported. -/
theorem Reached.getElem?_start {query : String} {ts : List Token}
    (h : Reached query.toList ts value before (c :: tail)) (p : Problem) (stop : Nat) :
    query.toList[(Rejection.diagnostic ⟨p, .span before.length stop, query⟩).start]? = some c := by
  have hget := h.getElem?_length
  obtain ⟨hlt, -⟩ := List.getElem?_eq_some_iff.mp hget
  rw [String.length_toList] at hlt
  have hplace : (Rejection.diagnostic ⟨p, .span before.length stop, query⟩).start
      = before.length := by
    simp only [Rejection.diagnostic, Diagnostic.make]
    omega
  rw [hplace, hget]

/-- A quotation with a guarded body that is not broken. -/
theorem quotationAt_of_guarded (kind : TokenKind) (extra : Nat) {body : List Char}
    (hguarded : Guarded '"' body) (hbreak : escapesBreak body = false) (rest : List Char) :
    quotationAt kind extra (body ++ '"' :: rest)
      = .token kind (unescape body) (extra + body.length + 1) := by
  rw [quotationAt, hguarded.quotedBody? (by decide)]
  simp [hbreak]

/-- A quotation has a guarded body. -/
theorem quotationAt_eq_token {kind k : TokenKind} {extra n : Nat} {tail chars : List Char}
    (h : quotationAt kind extra tail = .token k chars n) :
    ∃ body rest, Guarded '"' body ∧ escapesBreak body = false ∧ tail = body ++ '"' :: rest
      ∧ k = kind ∧ chars = unescape body ∧ n = extra + body.length + 1 := by
  rw [quotationAt] at h
  cases hbody : quotedBody? '"' tail with
  | none =>
    rw [hbody] at h
    cases h
  | some body =>
    obtain ⟨hguarded, rest, rfl⟩ := guarded_of_quotedBody? hbody
    rw [hbody] at h
    dsimp only at h
    split at h
    · cases h
    · rename_i hbreak
      cases h
      exact ⟨body, rest, hguarded, by simpa using hbreak, rfl, rfl, rfl, rfl⟩

/-- A pattern with a guarded body that is not broken. -/
theorem patternAt_of_guarded {body : List Char} (hguarded : Guarded '/' body)
    (hbreak : escapesBreak body = false) (rest : List Char) :
    patternAt (body ++ '/' :: rest)
      = .token (.pattern (String.ofList (rest.takeWhile isFlagLetter))) body
          (body.length + 1 + (rest.takeWhile isFlagLetter).length) := by
  have hdrop : (body ++ '/' :: rest).drop (body.length + 1) = rest := by
    rw [List.drop_append]
    simp
  rw [patternAt, hguarded.quotedBody? (by decide)]
  dsimp only
  rw [if_neg (by simp [hbreak]), hdrop]

/-- A pattern has a guarded body. -/
theorem patternAt_eq_token {kind : TokenKind} {n : Nat} {tail chars : List Char}
    (h : patternAt tail = .token kind chars n) :
    ∃ rest, Guarded '/' chars ∧ escapesBreak chars = false ∧ tail = chars ++ '/' :: rest
      ∧ kind = .pattern (String.ofList (rest.takeWhile isFlagLetter))
      ∧ n = chars.length + 1 + (rest.takeWhile isFlagLetter).length := by
  have hclosed : ∃ body, quotedBody? '/' tail = some body ∧ escapesBreak body = false := by
    rw [patternAt] at h
    cases hbody : quotedBody? '/' tail with
    | none =>
      rw [hbody] at h
      cases h
    | some body =>
      rw [hbody] at h
      dsimp only at h
      split at h
      · cases h
      · rename_i hbreak
        exact ⟨body, rfl, by simpa using hbreak⟩
  obtain ⟨body, hbody, hbreak⟩ := hclosed
  obtain ⟨hguarded, rest, rfl⟩ := guarded_of_quotedBody? hbody
  rw [patternAt_of_guarded hguarded hbreak] at h
  cases h
  exact ⟨rest, hguarded, hbreak, rfl, rfl, rfl⟩

/-- The cutting goes on behind a quotation. -/
theorem Reached.quotation {text : List Char} {ts : List Token}
    (h : Reached text ts value before ('"' :: tail)) {body rest : List Char}
    (hguarded : Guarded '"' body) (htail : tail = body ++ '"' :: rest)
    (hbreak : escapesBreak body = false) :
    Reached text
      (ts ++ [⟨.quoted, String.ofList (unescape body), before.length,
        before.length + 1 + (body.length + 1)⟩])
      false ('"' :: body.reverse ++ '"' :: before) rest := by
  subst htail
  have hstart : startAt value before '"' (body ++ '"' :: rest)
      = .token .quoted (unescape body) (body.length + 1) := by
    rw [startAt_quote, quotationAt_of_guarded .quoted 0 hguarded hbreak, Nat.zero_add]
  have hmore : body ++ '"' :: rest = (body ++ ['"']) ++ rest := by simp
  rw [hmore] at h hstart
  have hlen : body.length + 1 = (body ++ ['"']).length := by simp
  rw [hlen] at hstart ⊢
  simpa [TokenKind.takesValue] using h.token hstart

/-- A quotation without its closing quote is never closed, wherever it stands. -/
theorem startAt_of_open (hopen : ¬ ∃ body rest, Guarded '"' body ∧ tail = body ++ '"' :: rest) :
    startAt value before '"' tail = .unclosed .openQuotation := by
  rw [startAt_quote, quotationAt, (quotedBody?_eq_none_iff (by decide)).mpr hopen]

end Queries

/-- A text in which a quote is reached is not blank. -/
theorem Reached.isBlankText_eq_false {query : String} {ts : List Token} {value : Bool}
    {before tail : List Char} (h : Reached query.toList ts value before ('"' :: tail)) :
    isBlankText query = false := by
  rw [isBlankText, ← Bool.not_eq_true, h.text_eq]
  intro hall
  have hquote : isBlank '"' = true := List.all_eq_true.mp hall '"' (by simp)
  exact absurd hquote (by decide)

/-- **Which characters are unexpected.**  A query is reported for a character that begins no token
exactly if a place is reached with white space that is no gap, or with the quote of a broken
quotation, in a query that is not all white space.  Where a quote is reached it begins a quotation if
it is closed and not broken; it is reported as open if it is not closed; and it is unexpected if it
is closed but broken. -/
theorem tokenize_unexpected (query : String) :
    (∀ r, tokenize query = .error r ∧ r.problem.kind = .unexpectedToken ↔
        isBlankText query = false
          ∧ ∃ ts value before c tail, Reached query.toList ts value before (c :: tail)
            ∧ (isBlank c = true ∧ isGap c = false ∨ c = '"' ∧ Broken '"' tail)
            ∧ r = ⟨.unexpectedCharacter c, .span before.length (before.length + 1), query⟩
            ∧ query.toList[r.diagnostic.start]? = some c)
      ∧ ∀ ts value before tail, Reached query.toList ts value before ('"' :: tail) →
        (∀ body rest, Guarded '"' body → tail = body ++ '"' :: rest →
            (escapesBreak body = false →
              Reached query.toList
                (ts ++ [⟨.quoted, String.ofList (unescape body), before.length,
                  before.length + 1 + (body.length + 1)⟩])
                false ('"' :: body.reverse ++ '"' :: before) rest)
            ∧ (escapesBreak body = true →
              tokenize query = .error ⟨.unexpectedCharacter '"',
                .span before.length (before.length + 1), query⟩))
          ∧ ((¬ ∃ body rest, Guarded '"' body ∧ tail = body ++ '"' :: rest) →
              tokenize query = .error ⟨.openQuotation,
                .span before.length (before.length + 1 + tail.length), query⟩) := by
  constructor
  · intro r
    rw [tokenize_eq_error_iff]
    constructor
    · rintro ⟨⟨hblank, ts, value, before, c, tail, e, hreached, hhalts, rfl⟩, hkind⟩
      obtain ⟨rfl, hstart, hgap⟩ := hhalts.kind_eq_iff.mp hkind
      refine ⟨hblank, ts, value, before, c, tail, hreached, ?_, rfl, hreached.getElem?_start _ _⟩
      exact (startAt_eq_nothing_iff.mp hstart).imp (fun h => ⟨h, hgap⟩) id
    · rintro ⟨hblank, ts, value, before, c, tail, hreached, hc, rfl, -⟩
      have hstart : startAt value before c tail = .nothing :=
        startAt_eq_nothing_iff.mpr (hc.imp And.left id)
      have hgap : isGap c = false := by
        rcases hc with ⟨-, hgap⟩ | ⟨rfl, -⟩
        · exact hgap
        · rfl
      exact ⟨⟨hblank, ts, value, before, c, tail, _, hreached, .unexpected hstart hgap, rfl⟩, rfl⟩
  · intro ts value before tail hreached
    have hblank := hreached.isBlankText_eq_false
    refine ⟨fun body rest hguarded htail => ⟨fun hbreak => ?_, fun hbreak => ?_⟩, fun hopen => ?_⟩
    · exact hreached.quotation hguarded htail hbreak
    · have hstart : startAt value before '"' tail = .nothing :=
        startAt_eq_nothing_iff.mpr (.inr ⟨rfl, body, rest, hguarded, htail, hbreak⟩)
      exact hreached.tokenize_eq_error (.unexpected hstart rfl) hblank
    · exact hreached.tokenize_eq_error (.unclosed (startAt_of_open hopen)) hblank

/-- A word, a quotation with a quote in it that is escaped, and a quotation that is open. -/
def twoQuotations : String := "x \"a\\\" b\" \"c"

theorem twoQuotations_reached :
    Reached twoQuotations.toList [⟨.word, "x", 0, 1⟩] false [' ', 'x']
        ['"', 'a', '\\', '"', ' ', 'b', '"', ' ', '"', 'c']
      ∧ Reached twoQuotations.toList [⟨.word, "x", 0, 1⟩, ⟨.quoted, "a\" b", 2, 9⟩] false
        ['"', 'b', ' ', '"', '\\', 'a', '"', ' ', 'x'] [' ', '"', 'c']
      ∧ tokenize twoQuotations = .error ⟨.openQuotation, .span 10 12, twoQuotations⟩ := by
  obtain ⟨-, hquote⟩ := tokenize_unexpected twoQuotations
  have hword : Reached twoQuotations.toList [⟨.word, "x", 0, 1⟩] false ['x']
      [' ', '"', 'a', '\\', '"', ' ', 'b', '"', ' ', '"', 'c'] := by
    have htext : twoQuotations.toList
        = 'x' :: ([] ++ [' ', '"', 'a', '\\', '"', ' ', 'b', '"', ' ', '"', 'c']) := by decide +kernel
    have hstart : startAt false [] 'x'
        ([] ++ [' ', '"', 'a', '\\', '"', ' ', 'b', '"', ' ', '"', 'c'])
          = .token .word ['x'] ([] : List Char).length := by decide +kernel
    rw [htext]
    exact .token .start hstart
  have hfirst := hword.gap (by decide +kernel) (by decide)
  have hguarded : Guarded '"' ['a', '\\', '"', ' ', 'b'] :=
    .plain (by decide) (by decide) (.escaped (.plain (by decide) (by decide)
      (.plain (by decide) (by decide) .nil)))
  obtain ⟨hclosed, -⟩ := hquote _ _ _ _ hfirst
  have hsecond := (hclosed _ _ hguarded rfl).1 (by decide)
  obtain ⟨-, hopen⟩ := hquote _ _ _ _ (hsecond.gap (by decide +kernel) (by decide))
  have hnone : quotedBody? '"' ['c'] = none := by decide
  exact ⟨hfirst, hsecond, hopen ((quotedBody?_eq_none_iff (by decide)).mp hnone)⟩

/-- **A quote may be unexpected**, although it is no white space and a closing quote follows. -/
theorem brokenQuotation_unexpected :
    tokenize "\"a\\\nb\""
        = .error ⟨.unexpectedCharacter '"', .span 0 1, "\"a\\\nb\""⟩
      ∧ isBlank '"' = false ∧ Guarded '"' ['a', '\\', '\n', 'b'] := by
  refine ⟨?_, by decide, .plain (by decide) (by decide) (.escaped (.plain (by decide) (by decide)
    .nil))⟩
  have hbody : Broken '"' ['a', '\\', '\n', 'b', '"'] :=
    (broken_iff (by decide)).mpr ⟨['a', '\\', '\n', 'b'], by decide, by decide⟩
  have hreached : Reached "\"a\\\nb\"".toList [] false [] ('"' :: ['a', '\\', '\n', 'b', '"']) :=
    .start
  exact hreached.tokenize_eq_error
    (.unexpected (startAt_eq_nothing_iff.mpr (.inr ⟨rfl, hbody⟩)) rfl)
    hreached.isBlankText_eq_false

end CardQuery

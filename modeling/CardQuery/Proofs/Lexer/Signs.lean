import CardQuery.Proofs.Lexer.Boundary
import CardQuery.Proofs.Text.LowerCase
import CardQuery.Search

/-!
# Proofs/Lexer/Signs — which tokens of a query show as signs of the language

* `Token.Begins.signAt_start_iff` — a sign begins where a token of the syntax does exactly if the
  token is not hidden.
* `hasOperators_iff` — so a query is found out by each token of its syntax that is not hidden, and
  otherwise only by a sign that stands elsewhere.
* `negatedName_unseen` — there are queries of nothing but syntax in which all tokens are hidden.

The lexer and the search for signs go by different neighbours.  A token may begin right behind a
dash, a pattern or the flags of one, while the search allows only for the start of the text, a blank
and, at times, an opening parenthesis.  `Token.HiddenIn` lists what is missed on this account.
-/

namespace CardQuery

open Text

/-! ## Signs in a text -/

/-- A sign of the language begins at a place of a text. -/
def SignAt (text : List Char) (i : Nat) : Prop :=
  signAt (text.take i).getLast? (text.drop i) = true

theorem hasSign_iff {before : Option Char} {s : List Char} :
    hasSign before s = true ↔ ∃ i, signAt ((s.take i).getLast?.or before) (s.drop i) = true := by
  induction s generalizing before with
  | nil => simp [hasSign, signAt]
  | cons c s ih =>
    have hlast (i : Nat) : ((c :: s).take (i + 1)).getLast?.or before
        = (s.take i).getLast?.or (some c) := by
      rw [List.take_succ_cons, List.getLast?_cons, Option.or_some]
      rfl
    rw [hasSign, Bool.or_eq_true, ih]
    constructor
    · rintro (h | ⟨i, hi⟩)
      · exact ⟨0, h⟩
      · exact ⟨i + 1, by rw [hlast]; exact hi⟩
    · rintro ⟨_ | i, hi⟩
      · exact .inl hi
      · rw [hlast] at hi
        exact .inr ⟨i, hi⟩

/-- **A text clearly uses the language if a sign begins at one of its places.** -/
theorem hasOperators_iff_signAt {query : String} :
    hasOperators query = true ↔ ∃ i, SignAt query.toList i := by
  rw [hasOperators, hasSign_iff]
  simp only [Option.or_none, SignAt]

/-- A slash closes a pattern if there is something between the two slashes and no line break. -/
theorem closesPattern_iff {s : List Char} :
    closesPattern s = true ↔ ∃ body rest, s = body ++ '/' :: rest ∧ body ≠ [] ∧ '\n' ∉ body := by
  rw [closesPattern, List.contains_iff_mem]
  constructor
  · intro hmem
    obtain ⟨body, line, hline⟩ := List.append_of_mem hmem
    rcases hs : s.takeWhile (· != '\n') with _ | ⟨c, more⟩
    · rw [hs] at hline
      simp at hline
    · rw [hs, List.drop_one, List.tail_cons] at hline
      have hsplit := List.takeWhile_append_dropWhile (p := (· != '\n')) (l := s)
      have hbreak : ∀ d ∈ c :: more, d ≠ '\n' := by
        intro d hd
        rw [← hs] at hd
        simpa using List.all_eq_true.mp List.all_takeWhile d hd
      refine ⟨c :: body, line ++ s.dropWhile (· != '\n'), ?_, by simp, ?_⟩
      · rw [hs, hline] at hsplit
        simpa using hsplit.symm
      · intro hmem
        refine hbreak '\n' ?_ rfl
        rw [hline]
        rcases List.mem_cons.mp hmem with heq | hmem
        · exact heq ▸ List.mem_cons_self
        · exact List.mem_cons_of_mem c (List.mem_append_left _ hmem)
  · rintro ⟨body, rest, rfl, hne, hbreak⟩
    obtain ⟨c, body, rfl⟩ := List.exists_cons_of_ne_nil hne
    have hall : ∀ d ∈ c :: body, (d != '\n') = true := by
      intro d hd
      rw [bne_iff_ne]
      rintro rfl
      exact hbreak hd
    rw [List.takeWhile_append_of_pos hall]
    simp

/-! ## Names of fields -/

/-- The letters of a name are the same in lower case, to a reader that disregards case. -/
theorem caseKey_lowerCode {n : Nat} (h : n < 0x80) :
    caseKey (Char.ofNat (lowerCode n)).toNat = caseKey n := by
  have hall : ∀ n < 0x80, caseKey (Char.ofNat (lowerCode n)).toNat = caseKey n := by
    decide +kernel
  exact hall n h

/-- A name with an operator behind it is found by its lower-case form. -/
theorem aliasAt_lowerFrom {name s : List Char} (hname : ∀ c ∈ name, isNameChar c = true)
    (hop : (operatorAt? s).isSome = true) (before : List Char) :
    aliasAt (lowerFrom before name) (name ++ s) = true := by
  induction name generalizing before with
  | nil => exact hop
  | cons c name ih =>
    obtain ⟨hc, hrest⟩ := List.forall_mem_cons.mp hname
    have hlow := toNat_lt_of_isNameChar hc
    rw [lowerFrom, lowerAt_ascii hlow, List.singleton_append, List.cons_append, aliasAt,
      caseKey_lowerCode hlow, ih hrest]
    simp

theorem operatorAt?_text (op : CompareOp) (rest : List Char) :
    (operatorAt? (op.text.toList ++ rest)).isSome = true := by
  cases op with
  | lt | gt =>
    rcases rest with _ | ⟨c, rest⟩
    · rfl
    · by_cases hc : c = '='
      · rw [hc]
        rfl
      · simp [CompareOp.text, operatorAt?, hc]
  | _ => rfl

/-- **A known name with an operator behind it is found.** -/
theorem any_aliasAt {name : List Char} (op : CompareOp) (rest : List Char)
    (hname : ∀ c ∈ name, isNameChar c = true)
    (hknown : (Field.ofAlias? (String.ofList name)).isSome = true) :
    allAliases.any (aliasAt · (name ++ (op.text.toList ++ rest))) = true := by
  obtain ⟨f, hf⟩ := Option.isSome_iff_exists.mp hknown
  have hfound : f.aliases.contains (Text.lower (String.ofList name)) = true :=
    List.find?_some (p := fun g : Field => g.aliases.contains (Text.lower (String.ofList name))) hf
  have hmem : Text.lower (String.ofList name) ∈ f.aliases := List.contains_iff_mem.mp hfound
  refine List.any_eq_true.mpr ⟨lowerChars name, ?_, ?_⟩
  · refine List.mem_flatMap.mpr ⟨f, List.mem_of_find?_eq_some hf, List.mem_map.mpr ⟨_, hmem, ?_⟩⟩
    rw [toList_lower, String.toList_ofList]
  · exact aliasAt_lowerFrom hname (operatorAt?_text op rest) []

/-! ## Signs by their first character -/

/-- What stands before is nothing, a blank or an opening parenthesis. -/
def StandsApart (before : Option Char) : Prop := ∀ b ∈ before, isBlank b = true ∨ b = '('

section FirstCharacter

variable {before : Option Char} {s : List Char}

theorem all_standsApart_iff :
    (before.all fun b => isBlank b || b == '(') = true ↔ StandsApart before := by
  rw [Option.all_eq_true, StandsApart]
  simp only [Bool.or_eq_true, beq_iff_eq, Option.mem_def]

theorem signAt_exclamation : signAt before ('!' :: s) = true ↔ StandsApart before :=
  all_standsApart_iff

theorem signAt_dash :
    signAt before ('-' :: s) = true ↔
      StandsApart before ∧ ∃ c ∈ s.head?, isWordChar c = true := by
  have hsign : signAt before ('-' :: s)
      = ((before.all fun b => isBlank b || b == '(') && s.head?.any isWordChar) := rfl
  rw [hsign, Bool.and_eq_true, all_standsApart_iff, Option.any_eq_true]
  simp only [Option.mem_def]

theorem signAt_slash :
    signAt before ('/' :: s) = true ↔
      (∀ b ∈ before, isBlank b = true)
        ∧ ∃ body rest, s = body ++ '/' :: rest ∧ body ≠ [] ∧ '\n' ∉ body := by
  have hsign : signAt before ('/' :: s) = (before.all isBlank && closesPattern s) := rfl
  rw [hsign, Bool.and_eq_true, closesPattern_iff, Option.all_eq_true]
  simp only [Option.mem_def]

/-- An operator word or a name with an operator is a sign unless a word character stands before. -/
theorem signAt_letter {c : Char} (hc : isNameStart c = true)
    (h : (wholeWordAt ['A', 'N', 'D'] (c :: s) || wholeWordAt ['O', 'R'] (c :: s)
      || allAliases.any (aliasAt · (c :: s))) = true) :
    signAt before (c :: s) = true ↔ ¬ ∃ b ∈ before, isWordChar b = true := by
  have hsign : signAt before (c :: s) = !before.any isWordChar := by
    unfold signAt
    split
    case h_1 heq => cases heq
    case h_8 => rw [h, Bool.and_true]
    all_goals
      rename_i heq
      cases heq
      exact absurd hc (by decide)
  rw [hsign, Bool.not_eq_true', ← Bool.not_eq_true, Option.any_eq_true]
  simp only [Option.mem_def]

end FirstCharacter

/-! ## Tokens -/

/-- **A token that belongs to the syntax of the language**: any but a bare word, an operator word
that is not written in capitals and a comparison that names no field. -/
def Token.isSyntax (t : Token) : Bool :=
  match t.kind with
  | .word => false
  | .comparison name _ => (Field.ofAlias? name).isSome
  | .and => t.text == "AND"
  | .or => t.text == "OR"
  | _ => true

/-- **A token of a text that shows no sign.**

A comparison and an operator word are hidden right behind the flags of a pattern.  A dash is hidden
unless it stands apart and a word character follows, and an exact name unless it stands apart or is
quoted.  A pattern is hidden unless it stands at the start or behind a blank and there is a slash
behind it on its line, with something between the two. -/
def Token.HiddenIn (text : List Char) (ts : List Token) (t : Token) : Prop :=
  let before := (text.take t.start).getLast?
  let after := text.drop (t.start + 1)
  match t.kind with
  | .comparison _ _ | .and | .or => t.BehindFlags ts
  | .exactName => ¬ StandsApart before ∧ (after.dropWhile isBlank).head? ≠ some '"'
  | .not => ¬ (StandsApart before ∧ ∃ c ∈ after.head?, isWordChar c = true)
  | .pattern _ =>
    ¬ ((∀ b ∈ before, isBlank b = true)
      ∧ ∃ body rest, after = body ++ '/' :: rest ∧ body ≠ [] ∧ '\n' ∉ body)
  | .word | .quoted | .opening | .closing => False

section Tokens

variable {text before more rest : List Char} {c : Char} {t : Token} {ts : List Token}

theorem Token.Begins.drop_start_add_one (h : t.Begins text before c more rest) :
    text.drop (t.start + 1) = more ++ rest := by
  rw [← List.drop_drop, h.drop_start]
  rfl

theorem Token.Begins.signAt_iff (h : t.Begins text before c more rest) :
    SignAt text t.start ↔ signAt before.head? (c :: (more ++ rest)) = true := by
  rw [SignAt, h.getLast?_take_start, h.drop_start]

/-- The character that every token of a kind begins with. -/
def TokenKind.mark? : TokenKind → Option Char
  | .opening => some '('
  | .closing => some ')'
  | .quoted => some '"'
  | .not => some '-'
  | .exactName => some '!'
  | .pattern _ => some '/'
  | .word | .comparison _ _ | .and | .or => none

theorem Spells.eq_mark {kind : TokenKind} {chars : List Char} (h : Spells kind chars (c :: more)) :
    ∀ m ∈ kind.mark?, c = m := by
  generalize hlexeme : c :: more = lexeme at h
  cases h with
  | word | comparison | and | or => nofun
  | _ =>
    intro m hm
    cases hm
    cases hlexeme
    rfl

theorem Spells.eq_operator {kind : TokenKind} {chars lexeme : List Char}
    (h : Spells kind chars lexeme) (hkind : kind = .and ∨ kind = .or) : lexeme = chars := by
  cases h with
  | and | or => rfl
  | _ =>
    rcases hkind with hkind | hkind
    · cases hkind
    · cases hkind

/-- A known name shows, unless a word character stands before it. -/
theorem Token.Begins.comparison_signAt_iff (h : t.Begins text before c more rest)
    {field : String} {op : CompareOp} (hkind : t.kind = .comparison field op)
    (hknown : (Field.ofAlias? field).isSome = true) :
    isNameStart c = true
      ∧ (SignAt text t.start ↔ ¬ ∃ b ∈ before.head?, isWordChar b = true) := by
  have hspells := h.spells
  rw [hkind] at hspells
  generalize hlexeme : c :: more = lexeme at hspells
  generalize t.text.toList = chars at hspells
  cases hspells with
  | @comparison name _ hfirst hname hne =>
    obtain ⟨d, name, rfl⟩ := List.exists_cons_of_ne_nil hne
    rw [List.cons_append] at hlexeme
    obtain ⟨rfl, rfl⟩ := List.cons.inj hlexeme
    have hstart : isNameStart c = true := hfirst c rfl
    refine ⟨hstart, ?_⟩
    rw [h.signAt_iff]
    refine signAt_letter hstart ?_
    have hany := any_aliasAt op rest hname hknown
    rw [List.append_assoc, ← List.cons_append, hany, Bool.or_true]

/-- No word character follows an operator word. -/
theorem Token.Begins.isWordChar_next (h : t.Begins text before c more rest)
    (hkind : t.kind = .and ∨ t.kind = .or)
    (hlast : ∃ b ∈ (c :: more).getLast?, isWordChar b = true) :
    rest.head?.any isWordChar = false := by
  rw [← Bool.not_eq_true, Option.any_eq_true]
  rintro ⟨d, hd, hword⟩
  rcases h.complete with ⟨flags, hflags, -⟩ | hend | hstop
  · rw [hflags] at hkind
    rcases hkind with hkind | hkind
    · cases hkind
    · cases hkind
  · obtain ⟨b, hb, hbword⟩ := hlast
    rw [hend b hb] at hbword
    cases hbword
  · have hvalue := isValueChar_of_isWordChar hword
    rw [hstop d hd] at hvalue
    cases hvalue

/-- An operator word in capitals shows, unless a word character stands before it. -/
theorem Token.Begins.operator_signAt_iff (h : t.Begins text before c more rest)
    (hword : t.kind = .and ∧ t.text = "AND" ∨ t.kind = .or ∧ t.text = "OR") :
    isNameStart c = true
      ∧ (SignAt text t.start ↔ ¬ ∃ b ∈ before.head?, isWordChar b = true) := by
  have hkind : t.kind = .and ∨ t.kind = .or := hword.imp And.left And.left
  have hlexeme : c :: more = t.text.toList := h.spells.eq_operator hkind
  rw [h.signAt_iff]
  rcases hword with ⟨-, htext⟩ | ⟨-, htext⟩
  · rw [htext] at hlexeme
    obtain ⟨rfl, rfl⟩ : c = 'A' ∧ more = ['N', 'D'] := List.cons.inj hlexeme
    have hwhole : wholeWordAt ['A', 'N', 'D'] ('A' :: (['N', 'D'] ++ rest)) = true := by
      simp [wholeWordAt, h.isWordChar_next hkind ⟨'D', rfl, by decide⟩]
    refine ⟨by decide, signAt_letter (by decide) ?_⟩
    rw [hwhole, Bool.true_or, Bool.true_or]
  · rw [htext] at hlexeme
    obtain ⟨rfl, rfl⟩ : c = 'O' ∧ more = ['R'] := List.cons.inj hlexeme
    have hwhole : wholeWordAt ['O', 'R'] ('O' :: (['R'] ++ rest)) = true := by
      simp [wholeWordAt, h.isWordChar_next hkind ⟨'R', rfl, by decide⟩]
    refine ⟨by decide, signAt_letter (by decide) ?_⟩
    rw [hwhole, Bool.or_true, Bool.true_or]

/-- **A sign begins where a token of the syntax does, exactly if the token is not hidden.**  An
exact name that is quoted may show by its quote only. -/
theorem Token.Begins.signAt_start_iff (h : t.Begins text before c more rest)
    (hcuts : Cuts false [] 0 text ts) (ht : t ∈ ts) (hproper : t.isSyntax = true)
    (hname : t.kind ≠ .exactName) : SignAt text t.start ↔ ¬ t.HiddenIn text ts := by
  have hmark : ∀ m ∈ t.kind.mark?, c = m := h.spells.eq_mark
  have hletter (hlex : isNameStart c = true
      ∧ (SignAt text t.start ↔ ¬ ∃ b ∈ before.head?, isWordChar b = true)) :
      SignAt text t.start ↔ ¬ t.BehindFlags ts := by
    rw [h.behindFlags_iff hcuts ht (isValueChar_of_isNameStart hlex.1)]
    exact hlex.2
  rw [HiddenIn, h.getLast?_take_start, h.drop_start_add_one]
  rw [isSyntax] at hproper
  cases hkind : t.kind with
  | word =>
    rw [hkind] at hproper
    cases hproper
  | comparison field op =>
    rw [hkind] at hproper
    exact hletter (h.comparison_signAt_iff hkind hproper)
  | and =>
    rw [hkind] at hproper
    exact hletter (h.operator_signAt_iff (.inl ⟨hkind, eq_of_beq hproper⟩))
  | or =>
    rw [hkind] at hproper
    exact hletter (h.operator_signAt_iff (.inr ⟨hkind, eq_of_beq hproper⟩))
  | exactName => exact absurd hkind hname
  | not =>
    rw [hkind] at hmark
    rw [h.signAt_iff, hmark _ rfl, signAt_dash, not_not]
  | pattern flags =>
    rw [hkind] at hmark
    rw [h.signAt_iff, hmark _ rfl, signAt_slash, not_not]
  | opening | closing | quoted =>
    rw [hkind] at hmark
    rw [h.signAt_iff, hmark _ rfl]
    exact ⟨fun _ => id, fun _ => rfl⟩

/-- **A token of the syntax that is not hidden shows**, at its first character or by its quote. -/
theorem Token.Begins.exists_signAt (h : t.Begins text before c more rest)
    (hcuts : Cuts false [] 0 text ts) (ht : t ∈ ts) (hproper : t.isSyntax = true)
    (hseen : ¬ t.HiddenIn text ts) : ∃ i, SignAt text i := by
  by_cases hkind : t.kind = .exactName
  · have hmark : ∀ m ∈ t.kind.mark?, c = m := h.spells.eq_mark
    rw [HiddenIn, hkind] at hseen
    by_cases hapart : StandsApart (text.take t.start).getLast?
    · rw [hkind] at hmark
      refine ⟨t.start, ?_⟩
      rw [SignAt, h.drop_start, hmark _ rfl, signAt_exclamation]
      exact hapart
    · have hquote : ((text.drop (t.start + 1)).dropWhile isBlank).head? = some '"' := by
        by_contra hbare
        exact hseen ⟨hapart, hbare⟩
      obtain ⟨s, hs⟩ := List.head?_eq_some_iff.mp hquote
      obtain ⟨blanks, hblanks⟩ := List.dropWhile_suffix (l := text.drop (t.start + 1)) isBlank
      rw [hs] at hblanks
      refine ⟨t.start + 1 + blanks.length, ?_⟩
      rw [SignAt, ← List.drop_drop, ← hblanks, List.drop_left]
      rfl
  · exact ⟨t.start, (h.signAt_start_iff hcuts ht hproper hkind).mpr hseen⟩

/-- **No sign begins where a hidden token does.** -/
theorem Token.Begins.not_signAt_start (h : t.Begins text before c more rest)
    (hcuts : Cuts false [] 0 text ts) (ht : t ∈ ts) (hproper : t.isSyntax = true)
    (hhidden : t.HiddenIn text ts) : ¬ SignAt text t.start := by
  by_cases hkind : t.kind = .exactName
  · have hmark : ∀ m ∈ t.kind.mark?, c = m := h.spells.eq_mark
    rw [HiddenIn, hkind] at hhidden
    rw [hkind] at hmark
    rw [SignAt, h.drop_start, hmark _ rfl, signAt_exclamation]
    exact hhidden.1
  · intro hsign
    exact (h.signAt_start_iff hcuts ht hproper hkind).mp hsign hhidden

end Tokens

/-! ## Queries -/

/-- **Which queries are found out.**  A query that is cut into tokens clearly uses the language
exactly if it has a token of its syntax that is not hidden, or a sign begins at a place where no
token of its syntax does. -/
theorem hasOperators_iff {query : String} {ts : List Token} (h : tokenize query = .ok ts) :
    hasOperators query = true ↔
      (∃ t ∈ ts, t.isSyntax = true ∧ ¬ t.HiddenIn query.toList ts)
        ∨ ∃ i, SignAt query.toList i ∧ ∀ t ∈ ts, t.isSyntax = true → t.start ≠ i := by
  have hcuts := tokenize_eq_ok_iff.mp h
  rw [hasOperators_iff_signAt]
  split at hcuts
  · rw [hcuts]
    simp
  have hall : ∀ t ∈ ts, ∃ near c more rest, t.Begins query.toList near c more rest :=
    hcuts.begins rfl
  constructor
  · rintro ⟨i, hi⟩
    by_cases hother : ∀ t ∈ ts, t.isSyntax = true → t.start ≠ i
    · exact .inr ⟨i, hi, hother⟩
    · simp only [not_forall, not_not] at hother
      obtain ⟨t, ht, hproper, rfl⟩ := hother
      obtain ⟨near, c, more, rest, hbegins⟩ := hall t ht
      refine .inl ⟨t, ht, hproper, fun hhidden => ?_⟩
      exact hbegins.not_signAt_start hcuts ht hproper hhidden hi
  · rintro (⟨t, ht, hproper, hseen⟩ | ⟨i, hi, -⟩)
    · obtain ⟨near, c, more, rest, hbegins⟩ := hall t ht
      exact hbegins.exists_signAt hcuts ht hproper hseen
    · exact ⟨i, hi⟩

/-- A comparison shows although the dash and the exact name before it are hidden. -/
theorem negatedName_seen :
    ∃ ts, tokenize "-!Shock t:elf" = .ok ts ∧ hasOperators "-!Shock t:elf" = true := by
  have htokens : (tokenize "-!Shock t:elf").toOption
      = some [⟨.not, "-", 0, 1⟩, ⟨.exactName, "Shock", 1, 7⟩, ⟨.comparison "t" .colon, "t:", 8, 10⟩,
        ⟨.word, "elf", 10, 13⟩] := by
    decide +kernel
  have hok := eq_ok_of_toOption htokens
  refine ⟨_, hok, (hasOperators_iff hok).mpr (.inl ?_)⟩
  refine ⟨⟨.comparison "t" .colon, "t:", 8, 10⟩, by simp, by decide +kernel, ?_⟩
  simp [Token.HiddenIn, Token.BehindFlags]

/-- **Not every query with syntax is found out**: in `-!Shock` the dash is followed by no word
character, and the exact name stands behind a dash. -/
theorem negatedName_unseen :
    ∃ ts, tokenize "-!Shock" = .ok ts ∧ (∃ t ∈ ts, t.isSyntax = true)
      ∧ hasOperators "-!Shock" = false := by
  have htokens : (tokenize "-!Shock").toOption
      = some [⟨.not, "-", 0, 1⟩, ⟨.exactName, "Shock", 1, 7⟩] := by
    decide +kernel
  have hunseen : hasOperators "-!Shock" = false := by decide +kernel
  exact ⟨_, eq_ok_of_toOption htokens, ⟨_, List.mem_cons_self, rfl⟩, hunseen⟩

end CardQuery

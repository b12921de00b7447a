import CardQuery.Proofs.Grammar.Composition
import CardQuery.Proofs.Lexer.Slashes
import CardQuery.Proofs.Typing.Query

/-!
# Proofs/Grammar/Quoting — any text can be searched for

* `unescape_escape` — a text whose quotes and backslashes are escaped is read back from a quotation.
* `itemAt_name` — a name of a field with an operator right behind it begins a comparison, even
  if its first letters are those of an operator word.
* `quoted_text_found` — so a quotation is a query for its text, by itself, as an exact name and as
  the value of a field of texts.
-/

namespace CardQuery

open Text

/-! ## Escaping -/

/-- A text with a backslash before each quote and each backslash. -/
def escape : List Char → List Char
  | [] => []
  | c :: s => if c = '"' ∨ c = '\\' then '\\' :: c :: escape s else c :: escape s

/-- A text as it is written between quotes. -/
def escaped (s : String) : String := String.ofList (escape s.toList)

theorem guarded_escape (s : List Char) : Guarded '"' (escape s) := by
  induction s with
  | nil => exact .nil
  | cons c s ih =>
    rw [escape]
    split
    · exact .escaped ih
    · rename_i hc
      obtain ⟨hquote, hslash⟩ := not_or.mp hc
      exact .plain hquote hslash ih

/-- Only quotes and backslashes stand behind a backslash. -/
theorem escapesBreak_escape (s : List Char) : escapesBreak (escape s) = false := by
  induction s with
  | nil => rfl
  | cons c s ih =>
    rw [escape]
    split
    · rename_i hc
      rcases hc with rfl | rfl
      · exact ih
      · exact ih
    · rename_i hc
      obtain ⟨-, hslash⟩ := not_or.mp hc
      simpa [escapesBreak, hslash] using ih

/-- **Escaping is undone.** -/
theorem unescape_escape (s : List Char) : unescape (escape s) = s := by
  induction s with
  | nil => rfl
  | cons c s ih =>
    rw [escape]
    split
    · rw [unescape, ih]
    · rename_i hc
      obtain ⟨-, hslash⟩ := not_or.mp hc
      simpa [unescape, hslash] using ih

/-- **A quotation of an escaped text has that text.** -/
theorem quotationAt_escape (kind : TokenKind) (extra : Nat) (s rest : List Char) :
    quotationAt kind extra (escape s ++ '"' :: rest)
      = .token kind s (extra + (escape s).length + 1) := by
  rw [quotationAt_of_guarded kind extra (guarded_escape s) (escapesBreak_escape s),
    unescape_escape]

/-! ## Names of fields -/

section Names

variable {c d : Char} {word name rest : List Char}

/-- No operator word begins where a word goes on to a sign that is no letter. -/
theorem keywordAt_of_isValueChar (kind : TokenKind) (hname : ∀ e ∈ name, isValueChar e = true)
    (hd : isValueChar d = true) (hsign : isNameStart d = false)
    (hword : word.all isNameStart = true) :
    keywordAt kind word c (name ++ d :: rest) = .nothing := by
  rw [keywordAt, if_neg]
  intro h
  obtain ⟨hmap, hend⟩ := Bool.and_eq_true_iff.mp h
  have hletters : ∀ e ∈ (name ++ d :: rest).take (word.length - 1), isNameStart e = true := by
    intro e he
    refine isNameStart_of_toLower (List.all_eq_true.mp hword _ ?_)
    rw [← eq_of_beq hmap]
    exact List.mem_map_of_mem (List.mem_cons_of_mem c he)
  rcases Nat.lt_or_ge name.length (word.length - 1) with hlt | hle
  · -- the sign would be a letter of the operator word
    obtain ⟨m, hm⟩ : ∃ m, word.length - 1 = name.length + (m + 1) :=
      ⟨word.length - 1 - name.length - 1, by omega⟩
    rw [hm, List.take_length_add_append, List.take_succ_cons] at hletters
    have hletter := hletters d (by simp)
    rw [hsign] at hletter
    cases hletter
  · -- the word would end at a character that goes on in a value
    rw [List.drop_append_of_le_length hle] at hend
    have hhead := isValueChar_of_atWordEnd hend
    cases hdrop : name.drop (word.length - 1) with
    | nil =>
      rw [hdrop] at hhead
      cases hd.symm.trans (hhead d rfl)
    | cons e more =>
      rw [hdrop] at hhead
      have he : e ∈ name := List.mem_of_mem_drop (hdrop ▸ List.mem_cons_self)
      cases (hname e he).symm.trans (hhead e rfl)

/-- The first character of an operator goes on in a value but not in a name. -/
theorem exists_sign (op : CompareOp) :
    ∃ d more, op.text.toList = d :: more ∧ isValueChar d = true ∧ isNameChar d = false := by
  cases op with
  | colon => exact ⟨':', [], rfl, by decide, by decide⟩
  | eq => exact ⟨'=', [], rfl, by decide, by decide⟩
  | ne => exact ⟨'!', ['='], rfl, by decide, by decide⟩
  | lt => exact ⟨'<', [], rfl, by decide, by decide⟩
  | le => exact ⟨'<', ['='], rfl, by decide, by decide⟩
  | gt => exact ⟨'>', [], rfl, by decide, by decide⟩
  | ge => exact ⟨'>', ['='], rfl, by decide, by decide⟩

/-- **A name with an operator right behind it begins a comparison**, even if its first letters are
those of an operator word. -/
theorem itemAt_name {op : CompareOp} {s : List Char} (before : List Char)
    (hc : isNameStart c = true) (hname : ∀ e ∈ name, isNameChar e = true)
    (hop : operatorAt? (op.text.toList ++ s) = some op) :
    itemAt before c (name ++ (op.text.toList ++ s))
      = .token (.comparison (String.ofList (c :: name)) op) (c :: name ++ op.text.toList)
        (name ++ op.text.toList).length := by
  obtain ⟨d, more, hsymbol, hd, hsign⟩ := exists_sign op
  have hvalue : ∀ e ∈ name, isValueChar e = true := fun e he =>
    isValueChar_of_isWordChar (isWordChar_of_isNameChar (hname e he))
  have hsignStart : isNameStart d = false := by
    rw [← Bool.not_eq_true]
    intro hstart
    cases hsign.symm.trans (isNameChar_of_isNameStart hstart)
  have hkeyword (kind : TokenKind) {word : List Char} (hword : word.all isNameStart = true) :
      keywordAt kind word c (name ++ (op.text.toList ++ s)) = .nothing := by
    rw [hsymbol, List.cons_append]
    exact keywordAt_of_isValueChar kind hvalue hd hsignStart hword
  have hrun : (name ++ (op.text.toList ++ s)).takeWhile isNameChar = name := by
    rw [List.takeWhile_append_of_pos hname, hsymbol, List.cons_append,
      List.takeWhile_cons_of_neg (by simp [hsign]), List.append_nil]
  have hbehind : (name ++ (op.text.toList ++ s)).dropWhile isNameChar = op.text.toList ++ s := by
    rw [List.dropWhile_append_of_pos hname, hsymbol, List.cons_append,
      List.dropWhile_cons_of_neg (by simp [hsign])]
  rw [itemAt_of_isNameStart before _ hc, hkeyword .or (by decide), hkeyword .and (by decide),
    comparisonAt, if_pos hc, hbehind, hop]
  dsimp only
  rw [hrun, List.length_append]
  rfl

end Names

/-! ## Tokens -/

/-- A quotation of an escaped text is cut into one token. -/
theorem cuts_quotation (value : Bool) (before s : List Char) (place : Nat) :
    Cuts value before place ('"' :: (escape s ++ ['"']))
      [⟨.quoted, String.ofList s, place, place + 1 + (escape s ++ ['"']).length⟩] := by
  have hstart : startAt value before '"' ((escape s ++ ['"']) ++ [])
      = .token .quoted s (escape s ++ ['"']).length := by
    rw [startAt_quote, List.append_assoc, List.cons_append, List.nil_append, quotationAt_escape,
      List.length_append]
    simp
  have hspells : Spells .quoted s ('"' :: (escape s ++ ['"'])) := by
    have h := Spells.quoted (guarded_escape s) (escapesBreak_escape s)
    rwa [unescape_escape] at h
  have hcuts : Cuts value before place ('"' :: ((escape s ++ ['"']) ++ [])) _ :=
    .token hstart hspells .done
  rwa [List.append_nil] at hcuts

/-- So is an exact name in quotes. -/
theorem cuts_exactQuotation (s : List Char) :
    Cuts false [] 0 ('!' :: '"' :: (escape s ++ ['"']))
      [⟨.exactName, String.ofList s, 0, 0 + 1 + ('"' :: (escape s ++ ['"'])).length⟩] := by
  have hname : exactNameAt ('"' :: (escape s ++ ['"']))
      = quotationAt .exactName 1 (escape s ++ '"' :: []) := rfl
  have hstart : startAt false [] '!' ('"' :: (escape s ++ ['"']) ++ [])
      = .token .exactName s ('"' :: (escape s ++ ['"'])).length := by
    change (exactNameAt ('"' :: (escape s ++ ['"']) ++ [])).orElse _ = _
    rw [List.append_nil, hname, quotationAt_escape]
    simp only [Start.orElse, List.length_cons, List.length_append, List.length_nil]
    congr 1
    omega
  have hspells : Spells .exactName s ('!' :: '"' :: (escape s ++ ['"'])) := by
    have h : Spells .exactName (unescape (escape s)) ('!' :: [] ++ '"' :: escape s ++ ['"']) :=
      .exactQuotation nofun (guarded_escape s) (escapesBreak_escape s)
    rwa [unescape_escape] at h
  have hcuts : Cuts false [] 0 ('!' :: ('"' :: (escape s ++ ['"']) ++ [])) _ :=
    .token hstart hspells .done
  rwa [List.append_nil] at hcuts

theorem isValueChar_of_isDigit {c : Char} (h : c.isDigit = true) : isValueChar c = true :=
  isValueChar_of_isWordChar (isWordChar_of_isNameChar (by simp [isNameChar, Char.isAlphanum, h]))

/-- A run of characters of a value is cut into one word behind an operator, unless a pattern might
begin. -/
theorem cuts_word {c : Char} {s : List Char} (before : List Char) (place : Nat) (hslash : c ≠ '/')
    (hall : ∀ e ∈ c :: s, isValueChar e = true) :
    Cuts true before place (c :: s)
      [⟨.word, String.ofList (c :: s), place, place + 1 + s.length⟩] := by
  obtain ⟨hc, hs⟩ := List.forall_mem_cons.mp hall
  have hquote : (c == '"') = false := beq_false_of_ne fun h => by
    rw [h] at hc
    cases hc
  have hspan : (s ++ []).takeWhile isValueChar = s := by
    rw [List.takeWhile_append_of_pos hs, List.takeWhile_nil, List.append_nil]
  have hstart : startAt true before c (s ++ []) = .token .word (c :: s) s.length := by
    simp only [startAt, valueAt, wordAt, hquote, beq_false_of_ne hslash, hc, hspan,
      Bool.false_eq_true, if_true, if_false]
    rfl
  have hcuts : Cuts true before place (c :: (s ++ [])) _ :=
    .token hstart (.word (List.cons_ne_nil c s) hall) .done
  rwa [List.append_nil] at hcuts

/-- An operator is read as it is written, unless the next character would make another one of it. -/
theorem operatorAt?_text_cons (op : CompareOp) {d : Char} (hd : d ≠ '=') (s : List Char) :
    operatorAt? (op.text.toList ++ d :: s) = some op := by
  cases op with
  | lt =>
    change operatorAt? ('<' :: d :: s) = _
    simp [operatorAt?, hd]
  | gt =>
    change operatorAt? ('>' :: d :: s) = _
    simp [operatorAt?, hd]
  | _ => rfl

/-- A value right behind an operator is the value of the comparison. -/
theorem exists_cuts_comparison {c d : Char} {name s : List Char} {kind : TokenKind} {text : String}
    {op : CompareOp} (hc : isNameStart c = true) (hname : ∀ e ∈ name, isNameChar e = true)
    (hop : operatorAt? (op.text.toList ++ d :: s) = some op)
    (hvalue : ∀ before place, ∃ stop, Cuts true before place (d :: s) [⟨kind, text, place, stop⟩]) :
    ∃ t v, Cuts false [] 0 (c :: ((name ++ op.text.toList) ++ d :: s)) [t, v]
      ∧ t.kind = .comparison (String.ofList (c :: name)) op ∧ v.kind = kind ∧ v.text = text
      ∧ v.start = t.stop := by
  have hstart := itemAt_name [] hc hname hop
  rw [← List.append_assoc] at hstart
  have hspells : Spells (.comparison (String.ofList (c :: name)) op) (c :: name ++ op.text.toList)
      (c :: (name ++ op.text.toList)) := by
    refine .comparison (fun e he => ?_) (fun e he => ?_) (List.cons_ne_nil c name)
    · obtain rfl : c = e := Option.some.inj he
      exact hc
    · rcases List.mem_cons.mp he with rfl | he
      · exact isNameChar_of_isNameStart hc
      · exact hname e he
  obtain ⟨stop, hcuts⟩ := hvalue ((name ++ op.text.toList).reverse ++ c :: [])
    (0 + 1 + (name ++ op.text.toList).length)
  exact ⟨_, _, .token hstart hspells hcuts, rfl, rfl, rfl, rfl⟩

/-! ## Queries -/

namespace Query

open Grammar

/-- **The names of a field** are names, and the field is found by each of them. -/
theorem aliases_found : ∀ field ∈ Field.all, ∀ name ∈ field.aliases,
    Field.ofAlias? name = some field ∧ name.toList.head?.any isNameStart = true
      ∧ name.toList.all isNameChar = true := by
  decide +kernel

/-- A quotation gives a field of texts its text. -/
theorem ofToken_quoted {field : Field} {op : CompareOp} {v : Token}
    (hkind : field.kind = .text ∨ field.kind = .discrete ∨ field.kind = .list)
    (hv : v.kind = .quoted) :
    Value.ofToken (m := Id) Pattern.make field op v = .ok (.text (.string v.text)) := by
  have hstat : field.isStat = false := by
    rw [← Bool.not_eq_true]
    intro hstat
    rw [Value.kind_of_isStat hstat] at hkind
    rcases hkind with hkind | hkind | hkind
    · cases hkind
    · cases hkind
    · cases hkind
  have htext : Value.ofText field v.text = .ok (.text (.string v.text)) := by
    rcases hkind with hkind | hkind | hkind
    · rw [Value.ofText, hkind]
    · rw [Value.ofText, hkind]
    · rw [Value.ofText, hkind]
  rw [Value.ofToken, hv]
  change Value.ofWritten field op v.text = _
  rw [Value.ofWritten, hstat, Bool.and_false]
  exact htext

/-- **A value behind a name of a field and an operator of it makes a comparison.** -/
theorem parse_comparison {field : Field} {name : String} {op : CompareOp} {value : Value}
    {kind : TokenKind} {text : String} {d : Char} {s : List Char} (hname : name ∈ field.aliases)
    (hop : op ∈ field.operators) (hread : operatorAt? (op.text.toList ++ d :: s) = some op)
    (hkind : kind.isValue = true)
    (hcuts : ∀ before place, ∃ stop, Cuts true before place (d :: s) [⟨kind, text, place, stop⟩])
    (htyped : ∀ v : Token, v.kind = kind → v.text = text →
      Value.ofToken (m := Id) Pattern.make field op v = .ok value)
    (hcolors : ¬ AsksNoColor field op value) :
    parse (name ++ op.text ++ String.ofList (d :: s)) = .ok (.compare field op value) := by
  have hfield : field ∈ Field.all := by cases field <;> decide
  obtain ⟨hfound, hfirst, hall⟩ := aliases_found field hfield name hname
  obtain ⟨c, hc, hstart⟩ := (Option.any_eq_true ..).mp hfirst
  obtain ⟨more, hmore⟩ := List.head?_eq_some_iff.mp hc
  rw [hmore] at hall
  have hrest := (List.forall_mem_cons.mp (List.all_eq_true.mp hall)).2
  obtain ⟨t, v, hcuts, ht, hv, htext, hadjacent⟩ :=
    exists_cuts_comparison hstart hrest hread hcuts
  rw [← hmore, String.ofList_toList] at ht
  have hcompares : Compares t v field op value :=
    { named := ⟨name, ht, hfound⟩
      admitted := hop
      isValue := by rw [hv]; exact hkind
      adjacent := hadjacent
      typed := htyped v hv htext }
  refine parse_of_cuts ?_ ?_ hcuts (.ofBoth (.ofNegation (.ofTerm (.compare hcompares hcolors))))
  · simp [hmore]
  · exact (isBlank_of_isValueChar (isValueChar_of_isNameStart hstart)).1

/-- A quotation behind a name of a field of texts and an operator that asks for equality. -/
theorem parse_comparison_quotation (s : String) {field : Field} {name : String} {op : CompareOp}
    (hkind : field.kind = .text ∨ field.kind = .discrete ∨ field.kind = .list)
    (hname : name ∈ field.aliases) (hop : op.isEquality = true) :
    parse (name ++ op.text ++ "\"" ++ escaped s ++ "\"")
      = .ok (.compare field op (.text (.string s))) := by
  have hadmits : field.kind.admits op = true := by
    rw [FieldKind.admits, hop, Bool.or_true]
  have hcuts (before : List Char) (place : Nat) :
      ∃ stop, Cuts true before place ('"' :: (escape s.toList ++ ['"']))
        [⟨.quoted, s, place, stop⟩] := by
    have hquotation := cuts_quotation true before s.toList place
    rw [String.ofList_toList] at hquotation
    exact ⟨_, hquotation⟩
  have htyped (v : Token) (hv : v.kind = .quoted) (htext : v.text = s) :
      Value.ofToken (m := Id) Pattern.make field op v = .ok (.text (.string s)) := by
    rw [ofToken_quoted hkind hv, htext]
  have hparse := parse_comparison hname (mem_operators_iff.mpr hadmits)
    (operatorAt?_text_cons op (by decide) _) rfl hcuts htyped fun h => nomatch h.2.2
  rw [← hparse]
  congr 1
  rw [← String.toList_inj]
  simp [escaped]

/-- **Every text can be searched for in quotes.**  With its quotes and backslashes escaped, a text
in quotes is the query for it, behind an exclamation mark the query for cards of exactly that name,
and behind a name of a field of texts with an operator that asks for equality the comparison with
it. -/
theorem quoted_text_found (s : String) :
    parse ("\"" ++ escaped s ++ "\"") = .ok (.term (.string s))
      ∧ parse ("!\"" ++ escaped s ++ "\"") = .ok (.compare .name .eq (.text (.string s)))
      ∧ ∀ field : Field, field.kind = .text ∨ field.kind = .discrete ∨ field.kind = .list →
        ∀ name ∈ field.aliases, ∀ op : CompareOp, op = .colon ∨ op = .eq ∨ op = .ne →
          parse (name ++ op.text ++ "\"" ++ escaped s ++ "\"")
            = .ok (.compare field op (.text (.string s))) := by
  refine ⟨?_, ?_, fun field hkind name hname op hop => ?_⟩
  · have hcuts := cuts_quotation false [] s.toList 0
    rw [String.ofList_toList] at hcuts
    exact parse_of_cuts (by simp [escaped]) (by decide) hcuts
      (.ofBoth (.ofNegation (.ofTerm (.bare (.inr rfl)))))
  · have hcuts := cuts_exactQuotation s.toList
    rw [String.ofList_toList] at hcuts
    exact parse_of_cuts (by simp [escaped]) (by decide) hcuts
      (.ofBoth (.ofNegation (.ofTerm (.exactName rfl))))
  · have hequality : op.isEquality = true := by
      rcases hop with rfl | rfl | rfl
      · rfl
      · rfl
      · rfl
    exact parse_comparison_quotation s hkind hname hequality

/-- A text with quotes, backslashes and a line break, and a name that begins like an operator. -/
theorem marks_found :
    let s := "a\"\\\"\n(b/"
    escaped s = "a\\\"\\\\\\\"\n(b/"
      ∧ Field.oracle.kind = .text ∧ "oracle" ∈ Field.oracle.aliases
      ∧ parse ("oracle" ++ CompareOp.ne.text ++ "\"" ++ escaped s ++ "\"")
        = .ok (.compare .oracle .ne (.text (.string s))) := by
  intro s
  have hname : "oracle" ∈ Field.oracle.aliases := List.mem_cons_self
  obtain ⟨-, -, hcompared⟩ := quoted_text_found s
  exact ⟨by decide +kernel, rfl, hname,
    hcompared .oracle (.inl rfl) "oracle" hname .ne (.inr (.inr rfl))⟩

end Query

end CardQuery

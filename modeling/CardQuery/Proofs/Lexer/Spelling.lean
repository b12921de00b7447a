import CardQuery.Query.Lexer

/-!
# Proofs/Lexer/Spelling — how tokens are written

`Spells kind text lexeme` says that a token of a kind and with a text is written by some characters:
a word by itself, a quotation by its body between quotes, of which the text is the body without
escapes, and so on.

* `startAt_spelled` — what begins at a character is written there.

Quotations and patterns have a body in which no quote is bare (`Guarded`); `quotedBody?` finds just
the bodies of this kind.
-/

namespace CardQuery

open Text

/-! ## Bodies -/

/-- **A body without a bare quote**: a quote in it stands behind a backslash, and a backslash always
has a character to go with. -/
inductive Guarded (quote : Char) : List Char → Prop where
  | nil : Guarded quote []
  | plain {c : Char} {body : List Char} :
      c ≠ quote → c ≠ '\\' → Guarded quote body → Guarded quote (c :: body)
  | escaped {c : Char} {body : List Char} : Guarded quote body → Guarded quote ('\\' :: c :: body)

section Bodies

variable {quote : Char} {body s : List Char}

/-- A guarded body is found, whatever stands behind its closing quote. -/
theorem Guarded.quotedBody? (hq : quote ≠ '\\') (h : Guarded quote body) (rest : List Char) :
    quotedBody? quote (body ++ quote :: rest) = some body := by
  induction h with
  | nil => simp [CardQuery.quotedBody?, hq]
  | plain hc hslash _ ih => simp [CardQuery.quotedBody?, hc, hslash, ih]
  | escaped _ ih => simp [CardQuery.quotedBody?, ih]

/-- **Only a guarded body is found.** -/
theorem guarded_of_quotedBody? (h : quotedBody? quote s = some body) :
    Guarded quote body ∧ ∃ rest, s = body ++ quote :: rest := by
  fun_induction quotedBody? quote s generalizing body with
  | case1 => simp at h
  | case2 c s ih =>
    obtain ⟨body, hbody, rfl⟩ := Option.map_eq_some_iff.mp h
    obtain ⟨hguarded, rest, rfl⟩ := ih hbody
    exact ⟨.escaped hguarded, rest, rfl⟩
  | case3 c s hesc hc =>
    obtain rfl : [] = body := Option.some.inj h
    exact ⟨.nil, s, by rw [eq_of_beq hc]; rfl⟩
  | case4 c s hesc hc ih =>
    obtain ⟨body, hbody, rfl⟩ := Option.map_eq_some_iff.mp h
    obtain ⟨hguarded, rest, rfl⟩ := ih hbody
    have hslash : c ≠ '\\' := by
      rintro rfl
      rcases body with _ | ⟨d, body⟩
      · exact hesc _ _ rfl rfl
      · exact hesc _ _ rfl rfl
    exact ⟨.plain (by simpa using hc) hslash hguarded, rest, rfl⟩

end Bodies

/-! ## Lexemes -/

/-- **How a token of a kind and with a text is written.** -/
inductive Spells : TokenKind → List Char → List Char → Prop where
  | opening : Spells .opening ['('] ['(']
  | closing : Spells .closing [')'] [')']
  | not : Spells .not ['-'] ['-']
  | and {word : List Char} : word.map Char.toLower = ['a', 'n', 'd'] → Spells .and word word
  | or {word : List Char} : word.map Char.toLower = ['o', 'r'] → Spells .or word word
  | word {word : List Char} : word ≠ [] → (∀ c ∈ word, isValueChar c = true) → Spells .word word word
  | quoted {body : List Char} :
      Guarded '"' body → escapesBreak body = false →
      Spells .quoted (unescape body) ('"' :: body ++ ['"'])
  | pattern {body flags : List Char} :
      Guarded '/' body → escapesBreak body = false → (∀ c ∈ flags, isFlagLetter c = true) →
      Spells (.pattern (String.ofList flags)) body ('/' :: body ++ '/' :: flags)
  | comparison {name : List Char} {op : CompareOp} :
      (∀ c ∈ name.head?, isNameStart c = true) → (∀ c ∈ name, isNameChar c = true) → name ≠ [] →
      Spells (.comparison (String.ofList name) op) (name ++ op.text.toList) (name ++ op.text.toList)
  | exactName {blanks name : List Char} :
      (∀ c ∈ blanks, isBlank c = true) → name ≠ [] → (∀ c ∈ name, isValueChar c = true) →
      Spells .exactName name ('!' :: blanks ++ name)
  | exactQuotation {blanks body : List Char} :
      (∀ c ∈ blanks, isBlank c = true) → Guarded '"' body → escapesBreak body = false →
      Spells .exactName (unescape body) ('!' :: blanks ++ '"' :: body ++ ['"'])

/-- **What begins at a character is written there**, by it and the characters after it. -/
def Start.SpelledBy (c : Char) (tail : List Char) : Start → Prop
  | .token kind text extra => ∃ more rest, tail = more ++ rest ∧ extra = more.length
      ∧ Spells kind text (c :: more)
  | _ => True

section Starts

variable {c : Char} {tail : List Char}

theorem Start.SpelledBy.orElse {s t : Start} (hs : s.SpelledBy c tail) (ht : t.SpelledBy c tail) :
    (s.orElse t).SpelledBy c tail := by
  rcases s with _ | _ | _
  · exact hs
  · exact hs
  · exact ht

theorem Start.SpelledBy.ite {s t : Start} {p : Prop} [Decidable p] (hs : p → s.SpelledBy c tail)
    (ht : ¬ p → t.SpelledBy c tail) : (if p then s else t).SpelledBy c tail := by
  split
  · exact hs ‹_›
  · exact ht ‹_›

/-- A quotation behind some characters: they, the body and its closing quote are taken. -/
theorem quotationAt_spelled {kind : TokenKind} (before tail : List Char) {n : Nat}
    (hn : n = before.length)
    (h : ∀ body, Guarded '"' body → escapesBreak body = false →
      Spells kind (unescape body) (c :: before ++ (body ++ ['"']))) :
    (quotationAt kind n tail).SpelledBy c (before ++ tail) := by
  rw [quotationAt]
  rcases hbody : quotedBody? '"' tail with _ | body
  · trivial
  obtain ⟨hguarded, rest, rfl⟩ := guarded_of_quotedBody? hbody
  refine Start.SpelledBy.ite (fun _ => trivial) fun hbreak => ?_
  refine ⟨before ++ (body ++ ['"']), rest, by simp, ?_, h body hguarded (by simpa using hbreak)⟩
  rw [hn, List.length_append, List.length_append]
  rfl

theorem patternAt_spelled (tail : List Char) : (patternAt tail).SpelledBy '/' tail := by
  rw [patternAt]
  rcases hbody : quotedBody? '/' tail with _ | body
  · trivial
  obtain ⟨hguarded, rest, rfl⟩ := guarded_of_quotedBody? hbody
  refine Start.SpelledBy.ite (fun _ => trivial) fun hbreak => ?_
  have hdrop : (body ++ '/' :: rest).drop (body.length + 1) = rest := by
    rw [List.drop_append]
    simp
  rw [hdrop]
  refine ⟨body ++ '/' :: rest.takeWhile isFlagLetter, rest.dropWhile isFlagLetter, ?_, ?_, ?_⟩
  · simp [List.takeWhile_append_dropWhile]
  · simp
    omega
  · exact .pattern hguarded (by simpa using hbreak) (List.all_eq_true.mp List.all_takeWhile)

theorem wordAt_spelled (c : Char) (tail : List Char) : (wordAt c tail).SpelledBy c tail := by
  rw [wordAt]
  refine Start.SpelledBy.ite (fun hc => ?_) fun _ => trivial
  refine ⟨tail.takeWhile isValueChar, tail.dropWhile isValueChar,
    List.takeWhile_append_dropWhile.symm, rfl, .word (by simp) ?_⟩
  exact List.forall_mem_cons.mpr ⟨hc, List.all_eq_true.mp List.all_takeWhile⟩

theorem keywordAt_spelled {kind : TokenKind} {word : List Char}
    (h : ∀ written : List Char, written.map Char.toLower = word → Spells kind written written)
    (c : Char) (tail : List Char) : (keywordAt kind word c tail).SpelledBy c tail := by
  rw [keywordAt]
  refine Start.SpelledBy.ite (fun hword => ?_) fun _ => trivial
  obtain ⟨hword, -⟩ := Bool.and_eq_true_iff.mp hword
  have hlower : (c :: tail.take (word.length - 1)).map Char.toLower = word := eq_of_beq hword
  have hlen : (tail.take (word.length - 1)).length = word.length - 1 := by
    have := congrArg List.length hlower
    simp only [List.length_map, List.length_cons] at this
    omega
  exact ⟨tail.take (word.length - 1), tail.drop (word.length - 1), (List.take_append_drop ..).symm,
    hlen.symm, h _ hlower⟩

/-- The operator at the head of a text is written there. -/
theorem operatorAt?_eq_some {s : List Char} {op : CompareOp} (h : operatorAt? s = some op) :
    ∃ rest, s = op.text.toList ++ rest := by
  unfold operatorAt? at h
  split at h
  case h_8 => cases h
  all_goals
    obtain rfl := Option.some.inj h
    exact ⟨_, rfl⟩

theorem comparisonAt_spelled (c : Char) (tail : List Char) :
    (comparisonAt c tail).SpelledBy c tail := by
  rw [comparisonAt]
  refine Start.SpelledBy.ite (fun hc => ?_) fun _ => trivial
  dsimp only
  rcases hop : operatorAt? (tail.dropWhile isNameChar) with _ | op
  · trivial
  obtain ⟨rest, hrest⟩ := operatorAt?_eq_some hop
  refine ⟨tail.takeWhile isNameChar ++ op.text.toList, rest, ?_, ?_, ?_⟩
  · rw [List.append_assoc, ← hrest, List.takeWhile_append_dropWhile]
  · rw [List.length_append]
  · have hname : ∀ d ∈ c :: tail.takeWhile isNameChar, isNameChar d = true := by
      refine List.forall_mem_cons.mpr ⟨?_, List.all_eq_true.mp List.all_takeWhile⟩
      rw [isNameChar, Char.isAlphanum, Bool.or_right_comm]
      exact Bool.or_eq_true_iff.mpr (.inl hc)
    have hspelled : Spells (.comparison (String.ofList (c :: tail.takeWhile isNameChar)) op)
        ((c :: tail.takeWhile isNameChar) ++ op.text.toList)
        ((c :: tail.takeWhile isNameChar) ++ op.text.toList) :=
      .comparison (by simpa using hc) hname (by simp)
    exact hspelled

/-- A name directly behind its mark or behind blanks. -/
theorem exactNameAt_spelled (tail : List Char) : (exactNameAt tail).SpelledBy '!' tail := by
  rw [exactNameAt]
  have hsplit : tail.takeWhile isBlank ++ tail.dropWhile isBlank = tail :=
    List.takeWhile_append_dropWhile
  have hblanks : ∀ d ∈ tail.takeWhile isBlank, isBlank d = true :=
    List.all_eq_true.mp List.all_takeWhile
  rcases hrest : tail.dropWhile isBlank with _ | ⟨d, rest⟩
  · trivial
  rw [hrest] at hsplit
  dsimp only
  split
  · rename_i hd
    obtain rfl : d = '"' := eq_of_beq hd
    have h : (quotationAt .exactName ((tail.takeWhile isBlank).length + 1) rest).SpelledBy '!'
        ((tail.takeWhile isBlank ++ ['"']) ++ rest) := by
      refine quotationAt_spelled _ rest (by simp) fun body hguarded hbreak => ?_
      simpa using Spells.exactQuotation hblanks hguarded hbreak
    rwa [List.append_assoc, List.singleton_append, hsplit] at h
  · refine Start.SpelledBy.ite (fun _ => trivial) fun hname => ?_
    refine ⟨tail.takeWhile isBlank ++ (d :: rest).takeWhile isValueChar,
      (d :: rest).dropWhile isValueChar, ?_, ?_, ?_⟩
    · rw [List.append_assoc, List.takeWhile_append_dropWhile, hsplit]
    · rw [List.length_append]
    · exact .exactName hblanks (by simpa using hname) (List.all_eq_true.mp List.all_takeWhile)

end Starts

/-! ## What begins at a character -/

/-- What begins at a character, right behind an operator or elsewhere. -/
def startAt (value : Bool) (before : List Char) (c : Char) (tail : List Char) : Start :=
  (if value then valueAt c tail else .nothing).orElse (itemAt before c tail)

section StartAt

variable (before : List Char) (c : Char) (tail : List Char)

theorem quotation_spelled : (quotationAt .quoted 0 tail).SpelledBy '"' tail :=
  quotationAt_spelled [] tail rfl fun _ => .quoted

theorem valueAt_spelled : (valueAt c tail).SpelledBy c tail := by
  rw [valueAt]
  refine .ite (fun hc => ?_) fun _ => .ite (fun hc => ?_) fun _ => ?_
  · rw [eq_of_beq hc]
    exact quotation_spelled tail
  · rw [eq_of_beq hc]
    exact (patternAt_spelled tail).orElse (wordAt_spelled '/' tail)
  · exact wordAt_spelled c tail

theorem itemAt_spelled : (itemAt before c tail).SpelledBy c tail := by
  rw [itemAt]
  refine .ite (fun hc => ?_) fun _ => .ite (fun hc => ?_) fun _ => .ite (fun hc => ?_) fun _ =>
    .ite (fun hc => ?_) fun _ => .ite (fun hc => ?_) fun _ => .ite (fun hc => ?_) fun _ => ?_
  · rw [eq_of_beq hc]
    exact ⟨[], tail, rfl, rfl, .opening⟩
  · rw [eq_of_beq hc]
    exact ⟨[], tail, rfl, rfl, .closing⟩
  · rw [eq_of_beq hc]
    exact quotation_spelled tail
  · rw [eq_of_beq hc]
    exact ⟨[], tail, rfl, rfl, .not⟩
  · rw [eq_of_beq hc]
    exact (exactNameAt_spelled tail).orElse (wordAt_spelled '!' tail)
  · rw [eq_of_beq hc]
    exact .orElse (.ite (fun _ => patternAt_spelled tail) fun _ => trivial) (wordAt_spelled '/' tail)
  · exact (keywordAt_spelled (fun _ => .or) c tail).orElse
      ((keywordAt_spelled (fun _ => .and) c tail).orElse
        ((comparisonAt_spelled c tail).orElse (wordAt_spelled c tail)))

/-- **What begins at a character is written there.** -/
theorem startAt_spelled (value : Bool) : (startAt value before c tail).SpelledBy c tail :=
  .orElse (.ite (fun _ => valueAt_spelled c tail) fun _ => trivial) (itemAt_spelled before c tail)

end StartAt


end CardQuery

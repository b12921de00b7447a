import CardQuery.Proofs.Lexer.Boundary

/-!
# Proofs/Lexer/Reached — how far a text is cut

`Reached text ts value before rest` says that the cutting of a text has given the tokens `ts` and has
come to `rest`, with what it goes by there: whether an operator stands right before, and what stands
before at all.

* `Reached.tokensFrom_eq` — from there the cutting goes on as it would from the start.
* `tokenize_eq_error_iff` — a query has no tokens exactly if a place is reached where something
  begins that is never closed, or nothing begins and there is no gap.
* `Reached.lastToken` — behind the last token there are only gaps.

`Cuts` follows the tokens of a text from the first to the last and says nothing of a text that has
none; `Reached` follows them up to a place, and looks back from there.
-/

namespace CardQuery

open Text

/-- **How far a text is cut**: the tokens before a place, and what the cutting goes by there. -/
inductive Reached (text : List Char) : List Token → Bool → List Char → List Char → Prop where
  | start : Reached text [] false [] text
  | gap {ts : List Token} {value : Bool} {before : List Char} {c : Char} {tail : List Char} :
      Reached text ts value before (c :: tail) → startAt value before c tail = .nothing →
      isGap c = true → Reached text ts false (c :: before) tail
  | token {ts : List Token} {value : Bool} {before : List Char} {c : Char} {more rest : List Char}
      {kind : TokenKind} {chars : List Char} :
      Reached text ts value before (c :: (more ++ rest)) →
      startAt value before c (more ++ rest) = .token kind chars more.length →
      Reached text
        (ts ++ [⟨kind, String.ofList chars, before.length, before.length + 1 + more.length⟩])
        kind.takesValue (more.reverse ++ c :: before) rest

section Reaching

variable {text : List Char} {ts : List Token} {value : Bool} {before rest : List Char}

/-- What was cut and what was not make up the text. -/
theorem Reached.text_eq (h : Reached text ts value before rest) : text = before.reverse ++ rest := by
  induction h with
  | start => rfl
  | gap _ _ _ ih => rw [ih]; simp
  | token _ _ ih => rw [ih]; simp

/-- The first character that is not cut stands at the place that is reached. -/
theorem Reached.getElem?_length {c : Char} (h : Reached text ts value before (c :: rest)) :
    text[before.length]? = some c := by
  rw [h.text_eq, List.getElem?_append_right (by simp)]
  simp

/-- **From a place that is reached the cutting goes on.** -/
theorem Reached.tokensFrom_eq (h : Reached text ts value before rest) :
    tokensFrom false [] 0 text = (tokensFrom value before before.length rest).map (ts ++ ·) := by
  induction h with
  | start => cases tokensFrom false [] 0 text with
    | error e => rfl
    | ok us => rfl
  | gap _ hstart hgap ih => rw [ih, tokensFrom_cons, hstart, if_pos hgap]; rfl
  | @token ts value before c more rest kind chars _ hstart ih =>
    have hplace : before.length + 1 + more.length = (more.reverse ++ c :: before).length := by
      rw [List.length_append, List.length_reverse, List.length_cons]
      omega
    rw [ih, tokensFrom_cons, hstart]
    dsimp only
    rw [List.take_left, List.drop_left, hplace]
    cases tokensFrom kind.takesValue (more.reverse ++ c :: before)
        (more.reverse ++ c :: before).length rest with
    | error e => rfl
    | ok us => simp [Except.map, bind, Except.bind, pure, Except.pure]

/-- A token that is cut off at a place that is reached begins there. -/
theorem Reached.begins {c : Char} {more : List Char} {s : Token}
    (h : Reached text ts value before (c :: (more ++ rest)))
    (hstart : startAt value before c (more ++ rest) = .token s.kind s.text.toList more.length)
    (hplace : s.start = before.length) (hstop : s.stop = before.length + 1 + more.length) :
    s.Begins text before c more rest := by
  have hspelled := startAt_spelled before c (more ++ rest) value
  rw [hstart] at hspelled
  obtain ⟨more', rest', htail, hlen, hspells⟩ := hspelled
  obtain ⟨rfl, rfl⟩ := List.append_inj htail hlen
  exact ⟨h.text_eq, hplace, hstop, ⟨value, hstart⟩, hspells⟩

/-- A text that is cut into tokens is reached at each of them. -/
theorem Reached.cuts {place : Nat} {us mid post : List Token} {t : Token}
    (h : Reached text ts value before rest) (hcuts : Cuts value before place rest us)
    (hplace : place = before.length) (hus : us = mid ++ t :: post) :
    ∃ value before c more rest, Reached text (ts ++ mid) value before (c :: (more ++ rest))
      ∧ startAt value before c (more ++ rest) = .token t.kind t.text.toList more.length
      ∧ t.Begins text before c more rest := by
  induction hcuts generalizing ts mid with
  | done => simp at hus
  | gap hstart hgap _ ih => exact ih (h.gap hstart hgap) (by rw [hplace]; rfl) hus
  | @token value before place c more rest kind chars us hstart _ _ ih =>
    subst hplace
    cases mid with
    | nil =>
      obtain ⟨rfl, rfl⟩ := List.cons.inj hus
      have hkind : startAt value before c (more ++ rest)
          = .token kind (String.ofList chars).toList more.length := by
        rw [String.toList_ofList]
        exact hstart
      exact ⟨value, before, c, more, rest, by rwa [List.append_nil], hkind,
        h.begins hkind rfl rfl⟩
    | cons s mid =>
      obtain ⟨rfl, rfl⟩ := List.cons.inj hus
      have hnext := ih (h.token hstart) (by simp; omega) rfl
      rwa [List.append_assoc, List.singleton_append] at hnext

end Reaching

/-! ## Texts without tokens -/

/-- **The cutting halts at a character**: something begins that is never closed, or nothing begins and
the character is no gap. -/
inductive Halts (value : Bool) (before : List Char) (c : Char) (tail : List Char) :
    Problem × Place → Prop where
  | unclosed {p : Problem} : startAt value before c tail = .unclosed p →
      Halts value before c tail (p, .span before.length (before.length + 1 + tail.length))
  | unexpected : startAt value before c tail = .nothing → isGap c = false →
      Halts value before c tail (.unexpectedCharacter c, .span before.length (before.length + 1))

section Halting

variable {text : List Char} {ts : List Token} {value : Bool} {before rest : List Char}
  {e : Problem × Place}

theorem Halts.tokensFrom_eq {c : Char} {tail : List Char} (h : Halts value before c tail e) :
    tokensFrom value before before.length (c :: tail) = .error e := by
  cases h with
  | unclosed hstart => rw [tokensFrom_cons, hstart]
  | unexpected hstart hgap => rw [tokensFrom_cons, hstart, hgap]; rfl

/-- Where the cutting fails, it halts at a place that it reaches. -/
theorem Reached.exists_halts {place : Nat} (h : Reached text ts value before rest)
    (hplace : place = before.length) (herror : tokensFrom value before place rest = .error e) :
    ∃ ts value before c tail, Reached text ts value before (c :: tail)
      ∧ Halts value before c tail e := by
  fun_induction tokensFrom value before place rest generalizing ts with
  | case1 => cases herror
  | case2 value before place c tail kind chars extra hstart stop =>
    rename_i ih
    have hstart : startAt value before c tail = .token kind chars extra := hstart
    have hspelled := startAt_spelled before c tail value
    rw [hstart] at hspelled
    obtain ⟨more, rest, rfl, rfl, -⟩ := hspelled
    rw [List.take_left, List.drop_left] at herror ih
    cases hrest : tokensFrom kind.takesValue (more.reverse ++ c :: before)
        (place + 1 + more.length) rest with
    | ok us =>
      rw [hrest] at herror
      cases herror
    | error e' =>
      rw [hrest] at herror
      obtain rfl : e' = e := Except.error.inj herror
      refine ih (h.token hstart) ?_ hrest
      change place + 1 + more.length = _
      rw [hplace, List.length_append, List.length_reverse, List.length_cons]
      omega
  | case3 value before place c tail p hstart =>
    subst hplace
    obtain rfl := Except.error.inj herror
    exact ⟨ts, value, before, c, tail, h, .unclosed hstart⟩
  | case4 value before place c tail hstart hgap ih =>
    exact ih (h.gap hstart hgap) (by rw [hplace]; rfl) herror
  | case5 value before place c tail hstart hgap =>
    subst hplace
    obtain rfl := Except.error.inj herror
    exact ⟨ts, value, before, c, tail, h, .unexpected hstart (by simpa using hgap)⟩

/-- Where the cutting halts, it fails. -/
theorem Reached.tokenize_eq_error {query : String} {c : Char} {tail : List Char}
    (h : Reached query.toList ts value before (c :: tail)) (hhalts : Halts value before c tail e)
    (hblank : isBlankText query = false) : tokenize query = .error ⟨e.1, e.2, query⟩ := by
  rw [tokenize, if_neg (by simp [hblank]), h.tokensFrom_eq, hhalts.tokensFrom_eq]
  rfl

/-- **A query has no tokens exactly if the cutting reaches a place and halts there.** -/
theorem tokenize_eq_error_iff {query : String} {r : Rejection} :
    tokenize query = .error r ↔ isBlankText query = false
      ∧ ∃ ts value before c tail e, Reached query.toList ts value before (c :: tail)
        ∧ Halts value before c tail e ∧ r = ⟨e.1, e.2, query⟩ := by
  constructor
  · intro h
    rw [tokenize] at h
    split at h
    · cases h
    · rename_i hblank
      cases herror : tokensFrom false [] 0 query.toList with
      | ok us =>
        rw [herror] at h
        cases h
      | error e =>
        rw [herror] at h
        obtain ⟨ts, value, before, c, tail, hreached, hhalts⟩ :=
          Reached.start.exists_halts rfl herror
        exact ⟨by simpa using hblank, ts, value, before, c, tail, e, hreached, hhalts,
          (Except.error.inj h).symm⟩
  · rintro ⟨hblank, ts, value, before, c, tail, e, hreached, hhalts, rfl⟩
    exact hreached.tokenize_eq_error hhalts hblank

end Halting

/-! ## The last token -/

/-- **Behind the last token there are only gaps**, and a value may stand right behind it only. -/
theorem Reached.lastToken {text : List Char} {ts : List Token} {value : Bool}
    {before rest : List Char} (h : Reached text ts value before rest) :
    (ts = [] ∧ value = false ∧ ∀ c ∈ before, isGap c = true)
      ∨ ∃ pre s v near d more gaps, ts = pre ++ [s] ∧ before = gaps ++ (more.reverse ++ d :: near)
        ∧ (∀ c ∈ gaps, isGap c = true) ∧ value = (s.kind.takesValue && gaps.isEmpty)
        ∧ Reached text pre v near (d :: (more ++ (gaps.reverse ++ rest)))
        ∧ startAt v near d (more ++ (gaps.reverse ++ rest)) = .token s.kind s.text.toList more.length
        ∧ s.Begins text near d more (gaps.reverse ++ rest) := by
  induction h with
  | start => exact .inl ⟨rfl, rfl, nofun⟩
  | @gap ts value before c tail _ hstart hgap ih =>
    rcases ih with ⟨rfl, -, hgaps⟩ | ⟨pre, s, v, near, d, more, gaps, rfl, rfl, hgaps, -, hlast⟩
    · exact .inl ⟨rfl, rfl, List.forall_mem_cons.mpr ⟨hgap, hgaps⟩⟩
    · refine .inr ⟨pre, s, v, near, d, more, c :: gaps, rfl, rfl,
        List.forall_mem_cons.mpr ⟨hgap, hgaps⟩, by simp, ?_⟩
      rwa [List.reverse_cons, List.append_assoc, List.singleton_append]
  | @token ts value before c more rest kind chars hreached hstart _ =>
    have hkind : startAt value before c (more ++ rest)
        = .token kind (String.ofList chars).toList more.length := by
      rw [String.toList_ofList]
      exact hstart
    exact .inr ⟨ts, _, value, before, c, more, [], rfl, rfl, nofun, by simp, hreached, hkind,
      hreached.begins hkind rfl rfl⟩

end CardQuery

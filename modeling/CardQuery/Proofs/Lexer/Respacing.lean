import CardQuery.Proofs.Lexer.Gaps
import CardQuery.Proofs.Lexer.Slashes
import Mathlib.Data.List.Chain

/-!
# Proofs/Lexer/Respacing — tokens with other gaps around them

* `Cuts.exists_gaps` — a text is its tokens, as they are written, with gaps around them.
* `Cuts.respaced` — with other gaps around them it is cut into the same tokens at other places, if
  there is no backslash in it and tokens that stand side by side still do.

The run over the one text is followed by a run over the other: where the two have come to the same
token, what stands before it and what stands behind it differ in gaps only (`Alike`), so that the
same token begins in both.
-/

namespace CardQuery

open Text

/-! ## Words with gaps around them -/

/-- Words with gaps before, between and behind them. -/
def spaced : List (List Char) → List (List Char) → List Char
  | gap :: gaps, word :: words => gap ++ (word ++ spaced gaps words)
  | gap :: _, [] => gap
  | [], _ => []

/-- A token as it is written. -/
def Token.lexeme (text : List Char) (t : Token) : List Char := text.extract t.start t.stop

/-- **Gaps that fit around tokens**: one before each of them and one behind the last.  Between two
tokens there is an empty gap exactly if the one follows the other. -/
structure FitAround (gaps : List (List Char)) (ts : List Token) : Prop where
  length_eq : gaps.length = ts.length + 1
  areGaps : ∀ gap ∈ gaps, ∀ c ∈ gap, isGap c = true
  empty_iff : ∀ i (hi : i + 1 < ts.length),
    gaps[i + 1]? = some [] ↔ ts[i + 1].follows ts[i] = true

namespace FitAround

variable {gap : List Char} {gaps : List (List Char)} {t : Token} {ts : List Token}

theorem exists_cons (h : FitAround gaps ts) : ∃ gap more, gaps = gap :: more :=
  List.exists_cons_of_length_pos (by rw [h.length_eq]; omega)

theorem single (hgap : ∀ c ∈ gap, isGap c = true) : FitAround [gap] [] where
  length_eq := rfl
  areGaps := by simpa using hgap
  empty_iff := nofun

theorem tail (h : FitAround (gap :: gaps) (t :: ts)) : FitAround gaps ts where
  length_eq := Nat.succ.inj h.length_eq
  areGaps := (List.forall_mem_cons.mp h.areGaps).2
  empty_iff i hi := h.empty_iff (i + 1) (Nat.succ_lt_succ hi)

/-- The gap between the first two tokens. -/
theorem head_iff {u : Token} {between : List Char}
    (h : FitAround (gap :: between :: gaps) (t :: u :: ts)) :
    between = [] ↔ u.follows t = true := by
  simpa using h.empty_iff 0 (by simp)

/-- Before the first token there may be any gap. -/
theorem changeFirst {gap' : List Char} (h : FitAround (gap :: gaps) ts)
    (hgap : ∀ c ∈ gap', isGap c = true) : FitAround (gap' :: gaps) ts where
  length_eq := h.length_eq
  areGaps := List.forall_mem_cons.mpr ⟨hgap, (List.forall_mem_cons.mp h.areGaps).2⟩
  empty_iff := h.empty_iff

theorem cons (hgap : ∀ c ∈ gap, isGap c = true) (h : FitAround gaps ts)
    (hnext : ∀ u ∈ ts.head?, gaps.head? = some [] ↔ u.follows t = true) :
    FitAround (gap :: gaps) (t :: ts) where
  length_eq := congrArg (· + 1) h.length_eq
  areGaps := List.forall_mem_cons.mpr ⟨hgap, h.areGaps⟩
  empty_iff i hi := by
    cases i with
    | zero =>
      obtain ⟨u, us, rfl⟩ : ∃ u us, ts = u :: us := List.exists_cons_of_length_pos (by simpa using hi)
      simpa [List.head?_eq_getElem?] using hnext u rfl
    | succ i => exact h.empty_iff i (by simpa using hi)

end FitAround

/-- A run of gap characters is cut off at once. -/
theorem Cuts.ofGap {value : Bool} {before gap s : List Char} {place : Nat} {ts : List Token}
    (hgap : ∀ c ∈ gap, isGap c = true)
    (h : Cuts (value && gap.isEmpty) (gap.reverse ++ before) (place + gap.length) s ts) :
    Cuts value before place (gap ++ s) ts := by
  induction gap generalizing value before place with
  | nil => simpa using h
  | cons c gap ih =>
    obtain ⟨hc, hgap⟩ := List.forall_mem_cons.mp hgap
    refine .gap (startAt_eq_nothing_iff.mpr (.inl (isBlank_of_isGap hc))) hc (ih hgap ?_)
    have hplace : place + 1 + gap.length = place + (c :: gap).length := by
      rw [List.length_cons]
      omega
    rw [hplace]
    simpa using h

/-- Before a token there is a run of gap characters. -/
theorem Cuts.exists_gap {value : Bool} {before s : List Char} {place : Nat} {t : Token}
    {ts : List Token} (h : Cuts value before place s (t :: ts)) :
    ∃ gap rest, s = gap ++ rest ∧ (∀ c ∈ gap, isGap c = true) ∧ t.start = place + gap.length
      ∧ Cuts (value && gap.isEmpty) (gap.reverse ++ before) t.start rest (t :: ts) := by
  generalize hus : t :: ts = us at h
  induction h with
  | done => cases hus
  | @gap value before place c tail us hstart hgap h ih =>
    obtain ⟨gap, rest, rfl, hgaps, hplace, hcuts⟩ := ih hus
    refine ⟨c :: gap, rest, rfl, List.forall_mem_cons.mpr ⟨hgap, hgaps⟩, ?_, ?_⟩
    · rw [hplace, List.length_cons]
      omega
    · simpa using hcuts
  | @token value before place c more rest kind chars us hstart hspells h _ =>
    obtain ⟨rfl, rfl⟩ := List.cons.inj hus
    exact ⟨[], _, rfl, nofun, rfl, by simpa using .token hstart hspells h⟩

/-! ## Texts with other gaps -/

/-- **Tokens at other places**, each with the one that it was: they are the same, and side by side
where they were. -/
structure Relocates (ps : List (Token × Token)) : Prop where
  same : ∀ p ∈ ps, p.2.kind = p.1.kind ∧ p.2.text = p.1.text
  adjacent : ps.IsChain fun p q => q.1.start = p.1.stop → q.2.start = p.2.stop

theorem Relocates.cons {p q : Token × Token} {ps : List (Token × Token)} (h : Relocates (q :: ps))
    (hp : p.2.kind = p.1.kind ∧ p.2.text = p.1.text)
    (hadjacent : q.1.start = p.1.stop → q.2.start = p.2.stop) : Relocates (p :: q :: ps) where
  same := List.forall_mem_cons.mpr ⟨hp, h.same⟩
  adjacent := List.isChain_cons_cons.mpr ⟨hadjacent, h.adjacent⟩

section Queries

variable {text before before' s : List Char} {value : Bool} {t : Token} {ts : List Token}

theorem spaced_cons (c : Char) (gap : List Char) (gaps words : List (List Char)) :
    spaced ((c :: gap) :: gaps) words = c :: spaced (gap :: gaps) words := by
  cases words with
  | nil => rfl
  | cons word words => rfl

/-- The first token of a text that begins with it. -/
theorem Cuts.exists_token (h : Cuts value before t.start s (t :: ts))
    (htext : text = before.reverse ++ s) (hplace : t.start = before.length) :
    ∃ c more rest, s = c :: (more ++ rest) ∧ t.lexeme text = c :: more
      ∧ t.stop = t.start + 1 + more.length
      ∧ startAt value before c (more ++ rest) = .token t.kind t.text.toList more.length
      ∧ Spells t.kind t.text.toList (c :: more)
      ∧ Cuts t.kind.takesValue (more.reverse ++ c :: before) t.stop rest ts := by
  generalize hstart : t.start = place at h
  generalize hus : t :: ts = us at h
  cases h with
  | done => cases hus
  | gap _ _ h =>
    subst hus
    have hbound := (h.bounds t List.mem_cons_self).1
    omega
  | @token _ _ _ c more rest kind chars us hat hspells h =>
    obtain ⟨rfl, rfl⟩ := List.cons.inj hus
    rw [← String.toList_ofList (l := chars)] at hat hspells
    have hbegins : Token.Begins ⟨kind, String.ofList chars, place, place + 1 + more.length⟩ text before
        c more rest := ⟨htext, hplace, by rw [← hplace], ⟨value, hat⟩, hspells⟩
    exact ⟨c, more, rest, rfl, hbegins.extract_eq, rfl, hat, hspells, h⟩

/-- **A text is its tokens with gaps around them.** -/
theorem Cuts.exists_gaps {place : Nat} (h : Cuts value before place s ts)
    (htext : text = before.reverse ++ s) (hplace : place = before.length) :
    ∃ gap gaps, FitAround (gap :: gaps) ts ∧ spaced (gap :: gaps) (ts.map (Token.lexeme text)) = s
      ∧ ∀ t ∈ ts.head?, t.start = place + gap.length := by
  induction h with
  | done => exact ⟨[], [], .single nofun, rfl, nofun⟩
  | @gap value before place c tail us hstart hgap h ih =>
    obtain ⟨gap, gaps, hfit, hspaced, hfirst⟩ := ih (by simpa using htext) (by rw [hplace]; rfl)
    have hfirstGap : ∀ b ∈ c :: gap, isGap b = true :=
      List.forall_mem_cons.mpr ⟨hgap, (List.forall_mem_cons.mp hfit.areGaps).1⟩
    refine ⟨c :: gap, gaps, hfit.changeFirst hfirstGap, ?_, fun t ht => ?_⟩
    · rw [spaced_cons, hspaced]
    · rw [hfirst t ht, List.length_cons]
      omega
  | @token value before place c more rest kind chars us hstart hspells h ih =>
    obtain ⟨gap, gaps, hfit, hspaced, hfirst⟩ := ih (by simpa using htext) (by simp; omega)
    have hcuts : Cuts value before place (c :: (more ++ rest)) _ := .token hstart hspells h
    obtain ⟨d, mid, last, hsplit, hlexeme, hstop, -⟩ := Cuts.exists_token
      (t := ⟨kind, String.ofList chars, place, place + 1 + more.length⟩) hcuts htext hplace
    rw [← List.cons_append, ← List.cons_append] at hsplit
    obtain ⟨hword, -⟩ := List.append_inj hsplit (by simpa using hstop)
    rw [← hword] at hlexeme
    refine ⟨[], gap :: gaps, hfit.cons nofun fun u hu => ?_, ?_, fun t ht => ?_⟩
    · rw [Token.follows, hfirst u hu]
      simp
    · rw [List.map_cons, spaced, hspaced, hlexeme]
      rfl
    · cases ht
      rfl

/-- Behind the last token there are only gap characters. -/
theorem Cuts.areGaps {place : Nat} (h : Cuts value before place s []) : ∀ c ∈ s, isGap c = true := by
  generalize hus : ([] : List Token) = us at h
  induction h with
  | done => nofun
  | gap _ hgap _ ih => exact List.forall_mem_cons.mpr ⟨hgap, ih hus⟩
  | token => cases hus

/-- **One token with other gaps around it.** -/
theorem Cuts.token_respaced {c : Char} {more rest rest' : List Char} {us : List Token} {place' : Nat}
    (hstart : startAt value before c (more ++ rest) = .token t.kind t.text.toList more.length)
    (hspells : Spells t.kind t.text.toList (c :: more)) (hplain : '\\' ∉ c :: (more ++ rest))
    (hbefore : Alike before before') (hrest : Alike rest rest')
    (h : Cuts t.kind.takesValue (more.reverse ++ c :: before') (place' + 1 + more.length) rest' us) :
    Cuts value before' place' (c :: more ++ rest')
      (⟨t.kind, t.text, place', place' + 1 + more.length⟩ :: us) := by
  have hstart' := startAt_respaced hbefore hrest (List.not_mem_of_not_mem_cons hplain) c hstart
  have hcuts := Cuts.token hstart' hspells h
  rwa [String.ofList_toList] at hcuts

/-- **With other gaps a text is cut into the same tokens**, at other places. -/
theorem Cuts.respaced (h : Cuts value before t.start s (t :: ts)) (htext : text = before.reverse ++ s)
    (hplace : t.start = before.length) (hplain : '\\' ∉ s) (hbefore : Alike before before')
    {gap : List Char} {gaps : List (List Char)} (hfit : FitAround (gap :: gaps) (t :: ts))
    (place' : Nat) :
    ∃ u ps, ts = ps.map Prod.fst ∧ u.start = place' ∧ Relocates ((t, u) :: ps)
      ∧ Alike s (t.lexeme text ++ spaced gaps (ts.map (Token.lexeme text)))
      ∧ Cuts value before' place' (t.lexeme text ++ spaced gaps (ts.map (Token.lexeme text)))
          (u :: ps.map Prod.snd) := by
  induction ts generalizing value before before' s t gap gaps place' with
  | nil =>
    obtain ⟨c, more, rest, rfl, hlexeme, -, hstart, hspells, hrest⟩ := h.exists_token htext hplace
    obtain ⟨last, gaps, rfl⟩ := hfit.tail.exists_cons
    have hlast : ∀ b ∈ last, isGap b = true := (List.forall_mem_cons.mp hfit.tail.areGaps).1
    have halike : Alike rest last := .edge hrest.areGaps hlast
    have hcuts : Cuts t.kind.takesValue (more.reverse ++ c :: before') (place' + 1 + more.length)
        (last ++ []) [] := .ofGap hlast .done
    rw [List.append_nil] at hcuts
    refine ⟨_, [], rfl, rfl, ⟨by simp, .singleton _⟩, ?_,
      hlexeme ▸ Cuts.token_respaced hstart hspells hplain hbefore halike hcuts⟩
    rw [hlexeme]
    exact halike.append (c :: more)
  | cons u ts ih =>
    obtain ⟨c, more, rest, rfl, hlexeme, hstop, hstart, hspells, hrest⟩ := h.exists_token htext hplace
    obtain ⟨between, s, rfl, hbetween, hplace₂, hcuts⟩ := hrest.exists_gap
    obtain ⟨between', gaps, rfl⟩ := hfit.tail.exists_cons
    have hbetween' : ∀ b ∈ between', isGap b = true := (List.forall_mem_cons.mp hfit.tail.areGaps).1
    have hempty : between = [] ↔ between' = [] := by
      rw [hfit.head_iff, Token.follows, hplace₂]
      simp
    have hbefore₂ : Alike (between.reverse ++ (more.reverse ++ c :: before))
        (between'.reverse ++ (more.reverse ++ c :: before')) := by
      refine .between (.append (.cons c hbefore) more.reverse) (by simpa using hbetween)
        (by simpa using hbetween') (by simpa using hempty)
    obtain ⟨u', ps, rfl, hstart', hps, halike, hcuts'⟩ := ih hcuts (by simp [htext])
      (by simp [hplace₂, hstop, hplace]; omega)
      (fun hmem => hplain (by simp [hmem])) hbefore₂ hfit.tail
      (place' + 1 + more.length + between'.length)
    have hrest := halike.between hbetween hbetween' hempty
    have hvalue : between.isEmpty = between'.isEmpty := by
      rw [Bool.eq_iff_iff, List.isEmpty_iff, List.isEmpty_iff, hempty]
    rw [hvalue] at hcuts'
    refine ⟨⟨t.kind, t.text, place', place' + 1 + more.length⟩, (u, u') :: ps, rfl, rfl,
      hps.cons ⟨rfl, rfl⟩ fun hadjacent => ?_, ?_,
      hlexeme ▸ Cuts.token_respaced hstart hspells hplain hbefore hrest (.ofGap hbetween' hcuts')⟩
    · -- the gap between the two tokens is empty in both texts
      have hnil : between' = [] := by
        rw [← hempty, ← List.length_eq_zero_iff]
        dsimp only at hadjacent
        omega
      dsimp only
      rw [hstart', hnil]
      rfl
    · rw [hlexeme]
      exact hrest.append (c :: more)

end Queries

end CardQuery

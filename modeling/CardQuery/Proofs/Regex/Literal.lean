import CardQuery.Proofs.Text.LowerCase
import CardQuery.Regex.Pattern
import CardQuery.Text.Piece

/-!
# Proofs/Regex/Literal — patterns of plain characters

* `make_literal` — a text of characters without a meaning of their own is a pattern, which is
  compiled to these characters one after the other (`Node.literal`).
* `matchesIn_literal` — among ASCII characters it is found in a text exactly if its lower-case form
  is found in that of the text.

The reader takes one character a step, by induction on what is left to read; the matcher takes one a
step too, by induction on the pattern, and the search by induction on the text.
-/

namespace CardQuery.Regex

/-- The characters with a meaning of their own in a pattern. -/
def specials : List Char := ['\\', '|', ')', '[', '*', '+', '?', '\x7b', '.', '^', '$', '(']

/-- The expression of a text, character by character. -/
def Node.literal (s : List Char) : Node := .ofList (s.map fun c => .char c.toNat)

/-! ## Reading -/

section Reading

variable {s : List Char} {c : Char} {o : Option Symbol} {p : Progress} {fuel : Nat}

theorem symbols_literal (h : ∀ c ∈ s, c ∉ specials) : symbols s = s.map .plain := by
  induction s with
  | nil => rfl
  | cons c s ih =>
    obtain ⟨hc, hs⟩ := List.forall_mem_cons.mp h
    have hne : c ≠ '\\' := by
      rintro rfl
      exact hc (by decide)
    rw [symbols, ih hs, List.map_cons]
    · exact fun h _ => hne h
    · exact fun _ _ h _ => hne h

/-- What follows a step that succeeds goes on in the state that it leaves. -/
theorem run_bind_of_ok {α β : Type} {x : Reading α} {a : α} {p p' : Progress}
    (h : x.run p = .ok (a, p')) (f : α → Reading β) : (x >>= f).run p = (f a).run p' := by
  rw [StateT.run_bind, h]
  rfl

theorem peek_run (h : p.rest.head? = o) : peek.run p = .ok (o, p) := h ▸ rfl

/-- The state after the next character was read. -/
def Progress.past (p : Progress) (s : List Char) : Progress :=
  { p with rest := s.map .plain, place := p.place + 1 }

theorem next_plain (h : p.rest = (c :: s).map .plain) :
    next.run p = .ok (some (.plain c), p.past s) := by
  obtain ⟨rest, place, _⟩ := p
  obtain rfl : rest = .plain c :: s.map .plain := h
  cases s <;> rfl

/-- **A character without a meaning of its own is an item of its branch.** -/
theorem readBranch_plain (hc : c ∉ specials) (h : p.rest = (c :: s).map .plain) (leading : Bool)
    (acc : List (Node × Standing)) :
    (readBranch (fuel + 1) leading false acc).run p
      = (readBranch fuel leading false ((.char c.toNat, .item) :: acc)).run (p.past s) := by
  simp only [specials, List.mem_cons, List.not_mem_nil, or_false, not_or] at hc
  obtain ⟨-, hbar, hclose, hclass, hstar, hplus, hmark, hbrace, hdot, hstart, hend, hopen⟩ := hc
  rw [readBranch, run_bind_of_ok (peek_run (o := some (.plain c)) (by rw [h]; rfl))]
  split
  · rename_i hnone
    cases hnone
  · rename_i hplain
    cases hplain
    exact absurd rfl hbar
  · rename_i hplain
    cases hplain
    exact absurd rfl hclose
  · rename_i s hs
    cases hs
    rw [run_bind_of_ok (next_plain h)]
    simp [hclass, hstar, hplus, hmark, hbrace, hdot, hstart, hend, hopen]

/-- The state at the end of a literal. -/
def Progress.atEnd (p : Progress) (s : List Char) : Progress :=
  { p with rest := [], place := p.place + s.length }

/-- **A branch of plain characters is read to its end.** -/
theorem readBranch_literal (hs : ∀ c ∈ s, c ∉ specials) (hfuel : s.length ≤ fuel)
    (hp : p.rest = s.map .plain) (leading : Bool) (acc : List (Node × Standing)) :
    (readBranch fuel leading false acc).run p
      = .ok (.ofList (acc.reverse.map (·.1) ++ s.map fun c => .char c.toNat), p.atEnd s) := by
  induction s generalizing fuel p acc with
  | nil =>
    have hend : p.atEnd [] = p := by
      obtain ⟨rest, _⟩ := p
      obtain rfl : rest = [] := hp
      rfl
    rw [hend, List.map_nil, List.append_nil]
    cases fuel with
    | zero =>
      rw [readBranch]
      rfl
    | succ fuel =>
      rw [readBranch, run_bind_of_ok (peek_run (o := none) (by rw [hp]; rfl))]
      rfl
  | cons c s ih =>
    obtain ⟨hc, hrest⟩ := List.forall_mem_cons.mp hs
    obtain _ | fuel := fuel
    · cases hfuel
    have hend : (p.past s).atEnd s = p.atEnd (c :: s) := by
      simp only [Progress.past, Progress.atEnd, List.length_cons, Nat.add_assoc, Nat.add_comm 1]
    rw [readBranch_plain hc hp, ih hrest (Nat.le_of_succ_le_succ hfuel) rfl, hend]
    simp

/-- There are no further branches at the end. -/
theorem readMore_atEnd (hp : p.rest = []) (outermost : Bool) :
    (readMore fuel outermost false).run p = .ok ([], p) := by
  cases fuel with
  | zero =>
    rw [readMore]
    rfl
  | succ fuel =>
    have haccept : (accept '|').run p = .ok (false, p) := by
      rw [accept, run_bind_of_ok (peek_run (o := none) (by rw [hp]; rfl))]
      rfl
    rw [readMore, run_bind_of_ok haccept]
    rfl

theorem readPattern_literal (hs : ∀ c ∈ s, c ∉ specials) (hp : p.rest = s.map .plain) :
    readPattern.run p = .ok (.literal s, p.atEnd s) := by
  have hget : (get : Reading Progress).run p = .ok (p, p) := rfl
  have hdangling : p.rest ≠ [.dangling] := by
    rw [hp]
    cases s <;> simp
  have hfuel : s.length ≤ 4 * p.rest.length + 7 := by
    rw [hp, List.length_map]
    omega
  have hbranch := readBranch_literal hs hfuel hp true []
  have hmore : (readMore (4 * p.rest.length + 7) true false).run (p.atEnd s)
      = .ok ([], p.atEnd s) := readMore_atEnd rfl true
  have halternatives : (readAlternatives (4 * p.rest.length + 8) true false).run p
      = .ok (.literal s, p.atEnd s) := by
    rw [readAlternatives, run_bind_of_ok hbranch, run_bind_of_ok hmore]
    rfl
  rw [readPattern, run_bind_of_ok hget, if_neg hdangling, run_bind_of_ok hget]
  exact halternatives

theorem lookBehinds_literal (s : List Char) : (Node.literal s).lookBehinds = [] := by
  induction s with
  | nil => rfl
  | cons c s ih => exact ih

/-- **A text of plain characters is read as it stands.** -/
theorem read_literal {source : String} (h : ∀ c ∈ source.toList, c ∉ specials) :
    read source = .ok ⟨.literal source.toList, ⟨none, none, none, none⟩⟩ := by
  have hrun := readPattern_literal
    (p := ⟨symbols source.toList, 0, [], [], none, [], ⟨none, none, none, none⟩, false, false⟩) h
    (symbols_literal h)
  simp [read, hrun, lookBehinds_literal, Progress.atEnd]
  rfl

theorem compile_literal {source flags : String} (hsource : ∀ c ∈ source.toList, c ∉ specials)
    (hflags : ∀ c ∈ flags.toList, c ∈ flagLetters) :
    compile source flags = .ok ⟨.literal source.toList, modeOf flags.toList⟩ := by
  have hnone : flags.toList.find? (!flagLetters.contains ·) = none := by
    rw [List.find?_eq_none]
    intro c hc
    simpa using hflags c hc
  rw [compile, hnone, read_literal hsource]
  rfl

end Reading

/-! ## Matching -/

section Matching

variable {m : Mode} {f : Char → Char} {s t : List Char}

/-- Two characters are the same letter in a mode where a function gives them the same form. -/
def Mode.Agrees (m : Mode) (f : Char → Char) (s t : List Char) : Prop :=
  ∀ x ∈ s, ∀ y ∈ t, (m.key x.toNat == m.key y.toNat) = (f x == f y)

/-- **A literal matches at a place** where the same letters stand. -/
theorem run_literal {c : Cursor} (h : m.Agrees f s c.after) :
    ((Node.literal s).run m some c).isSome = (s.map f).isPrefixOf (c.after.map f) := by
  induction s generalizing c with
  | nil => rfl
  | cons x s ih =>
    have hseq : (Node.literal (x :: s)).run m some c
        = (c.step? fun y => m.key x.toNat == m.key y.toNat).bind ((Node.literal s).run m some) := rfl
    rw [hseq, Cursor.step?]
    cases hafter : c.after with
    | nil => rfl
    | cons y t =>
      rw [hafter] at h
      rw [List.map_cons, List.map_cons, List.isPrefixOf_cons_cons,
        ← h x List.mem_cons_self y List.mem_cons_self]
      dsimp only
      cases m.key x.toNat == m.key y.toNat with
      | true =>
        exact ih (c := { c with before := y :: c.before, after := t, place := c.place + 1 })
          fun a ha b hb => h a (List.mem_cons_of_mem x ha) b (List.mem_cons_of_mem y hb)
      | false => rfl

/-- **The search for a literal is the search for a piece.** -/
theorem findFrom_literal (h : m.Agrees f s t) (before : List Char) (place : Nat) :
    (Node.literal s).findFrom m before t place = Text.isPiece (s.map f) (t.map f) := by
  induction t generalizing before place with
  | nil =>
    rw [Node.findFrom, run_literal h]
    cases s <;> rfl
  | cons y t ih =>
    rw [Node.findFrom, run_literal h, List.map_cons, Text.isPiece,
      ih fun a ha b hb => h a ha b (List.mem_cons_of_mem y hb)]

end Matching

/-! ## ASCII texts -/

/-- The lower-case form of an ASCII character. -/
def lowerAscii (c : Char) : Char := Char.ofNat (Text.lowerCode c.toNat)

/-- A mode in which letters match in either case, also outside of ASCII, agrees with lowering. -/
theorem agrees_lowerAscii {m : Mode} (hcase : m.caseless = true) (hfull : m.ascii = false)
    {s t : List Char} (hs : ∀ x ∈ s, x.toNat < 0x80) (ht : ∀ y ∈ t, y.toNat < 0x80) :
    m.Agrees lowerAscii s t := by
  have hall : ∀ n < 0x80, (Char.ofNat (Text.lowerCode n)).toNat = Text.caseKey n := by
    decide +kernel
  intro x hx y hy
  have hkey (n : Nat) : m.key n = Text.caseKey n := by
    simp [Mode.key, hcase, hfull]
  rw [hkey, hkey, ← hall _ (hs x hx), ← hall _ (ht y hy)]
  exact Bool.eq_iff_iff.mpr (by simp [lowerAscii, Char.toNat_inj])

/-- An ASCII text is lowered character by character. -/
theorem lowerChars_ascii {s : List Char} (h : ∀ x ∈ s, x.toNat < 0x80) :
    Text.lowerChars s = s.map lowerAscii := by
  have hfrom (before : List Char) : Text.lowerFrom before s = s.map lowerAscii := by
    induction s generalizing before with
    | nil => rfl
    | cons x s ih =>
      obtain ⟨hx, hs⟩ := List.forall_mem_cons.mp h
      rw [Text.lowerFrom, ih hs, Text.lowerAt_ascii hx]
      rfl
  exact hfrom []

/-- **Among ASCII texts a literal is found where its lower-case form is a piece.** -/
theorem find_literal {m : Mode} (hcase : m.caseless = true) (hfull : m.ascii = false)
    {s t : List Char} (hs : ∀ x ∈ s, x.toNat < 0x80) (ht : ∀ y ∈ t, y.toNat < 0x80) :
    (Node.literal s).find m t = Text.isPiece (Text.lowerChars s) (Text.lowerChars t) := by
  rw [Node.find, findFrom_literal (agrees_lowerAscii hcase hfull hs ht), lowerChars_ascii hs,
    lowerChars_ascii ht]

end CardQuery.Regex

namespace CardQuery.Pattern

open Regex

/-- **A text of plain characters is a pattern.** -/
theorem make_literal {source flags : String} (hsource : ∀ c ∈ source.toList, c ∉ specials)
    (hflags : ∀ c ∈ flags.toList, c ∈ flagLetters) :
    ∃ p, make source flags = .ok p
      ∧ p.program = ⟨.literal source.toList, modeOf flags.toList⟩ := by
  have hcompile := compile_literal hsource hflags
  refine ⟨⟨source, flags, _, hcompile⟩, ?_, rfl⟩
  rw [make]
  split
  · rename_i program hprogram
    exact congrArg Except.ok (ext rfl rfl)
  · rename_i e herror
    rw [hcompile] at herror
    cases herror

/-- **Among ASCII texts a literal is found in any case**, whatever its flags. -/
theorem matchesIn_literal {p : Pattern} {source : String} {flags : List Char}
    (hp : p.program = ⟨.literal source.toList, modeOf flags⟩) {t : String}
    (hsource : ∀ c ∈ source.toList, c.toNat < 0x80) (ht : ∀ c ∈ t.toList, c.toNat < 0x80) :
    p.matchesIn t = Text.hasPiece (Text.lower t) (Text.lower source) := by
  rw [matchesIn, hp, Text.hasPiece, Text.toList_lower, Text.toList_lower]
  exact find_literal rfl rfl hsource ht

end CardQuery.Pattern

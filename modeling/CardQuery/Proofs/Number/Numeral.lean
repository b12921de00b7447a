import CardQuery.Number.Numeral
import CardQuery.Proofs.Text.Digit
import Mathlib.Data.List.TakeDrop

/-!
# Proofs/Number/Numeral — which plain numerals are read

A text that is a plain numeral once its white space is taken off is read as a number exactly if
there is no information separator in it (`readDouble?_eq_none_iff`): that is the white space which
`Text.trim` takes off and `readDouble?` does not.

In one direction every step of `readDouble?` is followed on the parts of a plain numeral
(`Unsigned`).  In the other a separator is followed: no step drops it, and no decimal has it.

A text of digits alone is read as the number that they write (`readDouble?_digits`), and the first
numeral in a text, which is there if a digit is, is always read (`readDouble?_firstPlainNumeral?`).
-/

namespace CardQuery

open Text

/-- An information separator, which is white space but no padding of a numeral. -/
def isSeparator (c : Char) : Bool := 0x1C ≤ c.toNat && c.toNat ≤ 0x1F

theorem isSeparator_iff {c : Char} : isSeparator c = true ↔ 0x1C ≤ c.toNat ∧ c.toNat ≤ 0x1F := by
  rw [isSeparator, Bool.and_eq_true, decide_eq_true_eq, decide_eq_true_eq]

theorem isNumeralPadding_eq (c : Char) : isNumeralPadding c = (isBlank c && !isSeparator c) := rfl

/-! ## Trimming -/

section Trim

variable {p q : Char → Bool} {s : List Char} {c : Char}

theorem dropWhile_congr (h : ∀ c ∈ s, p c = q c) : s.dropWhile p = s.dropWhile q := by
  induction s with
  | nil => rfl
  | cons c s ih =>
    rw [List.dropWhile_cons, List.dropWhile_cons, h c List.mem_cons_self,
      ih fun d hd => h d (List.mem_cons_of_mem c hd)]

/-- Trimming only looks at the characters of the text. -/
theorem trimBy_congr (h : ∀ c ∈ s, p c = q c) : trimBy p s = trimBy q s := by
  rw [trimBy, trimBy, dropTail, dropTail, dropWhile_congr h]
  refine congrArg List.reverse (dropWhile_congr fun c hc => h c ?_)
  exact (List.dropWhile_sublist q).subset (List.mem_reverse.mp hc)

theorem mem_dropWhile (hc : c ∈ s) (hp : p c = false) : c ∈ s.dropWhile p := by
  rw [← List.takeWhile_append_dropWhile (p := p) (l := s)] at hc
  rcases List.mem_append.mp hc with hc | hc
  · rw [List.all_eq_true.mp List.all_takeWhile c hc] at hp
    cases hp
  · exact hc

/-- Trimming drops only characters of the class. -/
theorem mem_trimBy (hc : c ∈ s) (hp : p c = false) : c ∈ trimBy p s :=
  List.mem_reverse.mpr (mem_dropWhile (List.mem_reverse.mpr (mem_dropWhile hc hp)) hp)

theorem trimBy_eq_self (h : ∀ c ∈ s, p c = false) : trimBy p s = s := by
  have hnone : ∀ t : List Char, (∀ c ∈ t, p c = false) → t.dropWhile p = t := by
    intro t ht
    cases t with
    | nil => rfl
    | cons c t => rw [List.dropWhile_cons, ht c List.mem_cons_self, if_neg Bool.false_ne_true]
  rw [trimBy, dropTail, hnone s h, hnone s.reverse fun c hc => h c (List.mem_reverse.mp hc),
    List.reverse_reverse]

end Trim

/-! ## The parts of a plain numeral -/

/-- Digits with an optional fraction, not both empty. -/
def Unsigned (s : List Char) : Prop :=
  ∃ whole tail, s = whole ++ tail ∧ (∀ c ∈ whole, isDigit c = true)
    ∧ (tail = [] ∧ whole ≠ []
      ∨ ∃ fraction, tail = '.' :: fraction ∧ fraction ≠ [] ∧ ∀ c ∈ fraction, isDigit c = true)

theorem spanDigits_eq (s : List Char) :
    spanDigits s = (s.takeWhile isDigit, s.dropWhile isDigit) :=
  List.span_eq_takeWhile_dropWhile isDigit s

/-- Digits are spanned up to the first other character. -/
theorem spanDigits_append {whole tail : List Char} (hw : ∀ c ∈ whole, isDigit c = true)
    (ht : ∀ c ∈ tail.head?, isDigit c = false) : spanDigits (whole ++ tail) = (whole, tail) := by
  rw [spanDigits_eq, List.takeWhile_append_of_pos hw, List.dropWhile_append_of_pos hw]
  cases tail with
  | nil => simp
  | cons c tail => simp [ht c rfl]

theorem spanDigits_of_digits {s : List Char} (h : ∀ c ∈ s, isDigit c = true) :
    spanDigits s = (s, []) := by
  have hspan := spanDigits_append h (nofun : ∀ c ∈ ([] : List Char).head?, isDigit c = false)
  rwa [List.append_nil] at hspan

theorem isDigit_of_mem_takeWhile {s : List Char} {c : Char} (h : c ∈ s.takeWhile isDigit) :
    isDigit c = true :=
  List.all_eq_true.mp List.all_takeWhile c h

/-- Digits with an optional fraction are cut off the head of a text. -/
theorem unsigned_of_spanUnsigned? {s m rest : List Char} (h : spanUnsigned? s = some (m, rest)) :
    Unsigned m ∧ s = m ++ rest := by
  have hsplit : s.takeWhile isDigit ++ s.dropWhile isDigit = s := List.takeWhile_append_dropWhile
  have hdigits : ∀ c ∈ s.takeWhile isDigit, isDigit c = true := fun c => isDigit_of_mem_takeWhile
  unfold spanUnsigned? at h
  rw [spanDigits_eq] at h
  generalize s.takeWhile isDigit = ds at h hsplit hdigits
  generalize s.dropWhile isDigit = tail at h hsplit
  subst hsplit
  split at h
  · cases h
  · rename_i whole behind hne hspan
    injection hspan with hwhole htail
    subst hwhole htail
    have hsplit : behind.takeWhile isDigit ++ behind.dropWhile isDigit = behind :=
      List.takeWhile_append_dropWhile
    have hfraction : ∀ c ∈ behind.takeWhile isDigit, isDigit c = true :=
      fun c => isDigit_of_mem_takeWhile
    rw [spanDigits_eq] at h
    split at h
    · -- a point without digits behind it is left
      cases h
      exact ⟨⟨m, [], (List.append_nil m).symm, hdigits, .inl ⟨rfl, hne⟩⟩, rfl⟩
    · rename_i fraction rest' hne' hspan'
      injection hspan' with hpart hrest
      cases h
      subst hpart hrest
      refine ⟨⟨ds, _, rfl, hdigits, .inr ⟨_, rfl, hne', hfraction⟩⟩, ?_⟩
      rw [List.append_assoc, List.cons_append, hsplit]
  · rename_i found hne hdot
    cases h
    refine ⟨⟨m, [], (List.append_nil m).symm, hdigits, .inl ⟨rfl, ?_⟩⟩, rfl⟩
    rintro rfl
    exact hne _ rfl

theorem unsigned_of_isUnsignedNumeral {s : List Char} (h : isUnsignedNumeral s = true) :
    Unsigned s := by
  unfold isUnsignedNumeral at h
  split at h
  · rename_i fraction
    obtain ⟨hne, hall⟩ := Bool.and_eq_true_iff.mp h
    refine ⟨[], '.' :: fraction, rfl, nofun, .inr ⟨fraction, rfl, ?_, List.all_eq_true.mp hall⟩⟩
    rintro rfl
    cases hne
  · obtain ⟨⟨m, rest⟩, hspan, hrest⟩ := (Option.any_eq_true ..).mp h
    obtain rfl := List.isEmpty_iff.mp hrest
    obtain ⟨hm, rfl⟩ := unsigned_of_spanUnsigned? hspan
    rwa [List.append_nil]

/-- **A plain numeral is an unsigned one, maybe after a dash.** -/
theorem unsigned_of_isPlainNumeral {s : List Char} (h : isPlainNumeral s = true) :
    ∃ body, Unsigned body ∧ (s = body ∨ s = '-' :: body) := by
  unfold isPlainNumeral at h
  split at h
  · rename_i rest
    exact ⟨rest, unsigned_of_isUnsignedNumeral h, .inr rfl⟩
  · exact ⟨s, unsigned_of_isUnsignedNumeral h, .inl rfl⟩

/-- Digits alone are a plain numeral. -/
theorem isPlainNumeral_of_digits {s : List Char} (hne : s ≠ []) (hs : ∀ c ∈ s, isDigit c = true) :
    isPlainNumeral s = true := by
  have hspan : spanUnsigned? s = some (s, []) := by
    rw [spanUnsigned?, spanDigits_of_digits hs]
    cases s with
    | nil => exact absurd rfl hne
    | cons c s => rfl
  have hbody : isUnsignedNumeral s = true := by
    unfold isUnsignedNumeral
    split
    · exact absurd (hs '.' List.mem_cons_self) (by decide)
    · rw [hspan]
      rfl
  unfold isPlainNumeral
  split
  · exact absurd (hs '-' List.mem_cons_self) (by decide)
  · exact hbody

/-! ## Reading the parts -/

/-- **An unsigned numeral is a decimal.** -/
theorem Unsigned.readDecimal? {body : List Char} (h : Unsigned body) :
    ∃ d, readDecimal? body = some d := by
  obtain ⟨whole, tail, rfl, hwhole, htail⟩ := h
  rcases htail with ⟨rfl, hne⟩ | ⟨fraction, rfl, hne, hfraction⟩
  · rw [List.append_nil]
    have hspan := spanDigits_of_digits hwhole
    have hempty : whole.isEmpty = false := by simpa using hne
    simp [CardQuery.readDecimal?, hspan, hempty, readExponent?]
  · have hspan : spanDigits (whole ++ '.' :: fraction) = (whole, '.' :: fraction) :=
      spanDigits_append hwhole fun c hc => by cases hc; decide
    have hspan' := spanDigits_of_digits hfraction
    have hempty : fraction.isEmpty = false := by simpa using hne
    simp [CardQuery.readDecimal?, hspan, hspan', hempty, readExponent?]

/-- The characters of an unsigned numeral. -/
theorem Unsigned.mem {body : List Char} (h : Unsigned body) {c : Char} (hc : c ∈ body) :
    isDigit c = true ∨ c = '.' := by
  obtain ⟨whole, tail, rfl, hwhole, htail⟩ := h
  rcases List.mem_append.mp hc with hc | hc
  · exact .inl (hwhole c hc)
  rcases htail with ⟨rfl, -⟩ | ⟨fraction, rfl, -, hfraction⟩
  · cases hc
  · rcases List.mem_cons.mp hc with rfl | hc
    · exact .inr rfl
    · exact .inl (hfraction c hc)

/-- The characters of an unsigned numeral that may have a dash before it. -/
theorem Unsigned.mem_signed {body s : List Char} (h : Unsigned body)
    (hs : s = body ∨ s = '-' :: body) {c : Char} (hc : c ∈ s) :
    isDigit c = true ∨ c = '.' ∨ c = '-' := by
  rcases hs with rfl | rfl
  · exact (h.mem hc).imp_right .inl
  · exact (List.mem_cons.mp hc).elim (fun e => .inr (.inr e)) fun hc => (h.mem hc).imp_right .inl

theorem Unsigned.ne_nil {body : List Char} (h : Unsigned body) : body ≠ [] := by
  obtain ⟨whole, tail, rfl, -, htail⟩ := h
  rcases htail with ⟨rfl, hne⟩ | ⟨fraction, rfl, -, -⟩
  · simpa using hne
  · simp

/-- An unsigned numeral begins with no sign. -/
theorem Unsigned.spanSign {body : List Char} (h : Unsigned body) :
    spanSign body = (false, body) := by
  unfold CardQuery.spanSign
  split
  · exact absurd (h.mem List.mem_cons_self) (by decide)
  · exact absurd (h.mem List.mem_cons_self) (by decide)
  · rfl

/-! ## Underscores and words -/

theorem dropUnderscores_eq_self {s : List Char} (h : '_' ∉ s) (before : Bool) :
    dropUnderscores before s = some s := by
  induction s generalizing before with
  | nil => rfl
  | cons c s ih =>
    have hc : c ≠ '_' := fun e => h (by rw [e]; exact List.mem_cons_self)
    rw [dropUnderscores.eq_3 _ _ _ fun e => hc e, ih (fun hs => h (List.mem_cons_of_mem c hs))]
    rfl

/-- A character that is no underscore is kept. -/
theorem mem_of_dropUnderscores {s t : List Char} {before : Bool}
    (h : dropUnderscores before s = some t) {c : Char} (hc : c ∈ s) (hu : c ≠ '_') : c ∈ t := by
  induction s generalizing before t with
  | nil => cases hc
  | cons d s ih =>
    by_cases hd : d = '_'
    · subst hd
      rw [dropUnderscores] at h
      split at h
      · rcases List.mem_cons.mp hc with rfl | hc
        · exact absurd rfl hu
        · exact ih h hc
      · cases h
    · rw [dropUnderscores.eq_3 _ _ _ fun e => hd e] at h
      obtain ⟨t', ht', rfl⟩ := Option.map_eq_some_iff.mp h
      rcases List.mem_cons.mp hc with rfl | hc
      · exact List.mem_cons_self
      · exact List.mem_cons_of_mem d (ih ht' hc)

/-- A text with a character that a word has not is another word. -/
theorem ofList_beq_eq_false {s : List Char} {word : String} {c : Char} (hc : c ∈ s)
    (hw : c ∉ word.toList) : (String.ofList s == word) = false := by
  refine beq_false_of_ne fun e => hw ?_
  rw [← e, String.toList_ofList]
  exact hc

/-- The letters of `inf`, `infinity` and `nan`. -/
def wordLetters : List Char := ['i', 'n', 'f', 't', 'y', 'a']

theorem of_mem_wordLetters {c : Char} (h : c ∈ wordLetters) :
    isSeparator c = false ∧ isDigit c = false ∧ c ≠ '.' := by
  simp only [wordLetters, List.mem_cons, List.not_mem_nil, or_false] at h
  rcases h with rfl | rfl | rfl | rfl | rfl | rfl <;> decide

/-- What `readDouble?` makes of a text without padding and underscores, if it is no word. -/
theorem readDouble?_eq {s : String} {t : List Char}
    (ht : dropUnderscores false (trimBy isNumeralPadding s.toList) = some t) {c : Char}
    (hc : c ∈ (spanSign t).2) (hlower : c.toLower = c)
    (hletter : c ∉ wordLetters) :
    readDouble? s = (readDecimal? (spanSign t).2).map (Double.ofDecimal (spanSign t).1) := by
  have hmem : c ∈ (spanSign t).2.map Char.toLower := List.mem_map.mpr ⟨c, hc, hlower⟩
  have hword : ∀ word : String, word.toList ⊆ wordLetters →
      (String.ofList ((spanSign t).2.map Char.toLower) == word) = false :=
    fun word h => ofList_beq_eq_false hmem fun hw => hletter (h hw)
  simp only [readDouble?, ht, Option.bind_eq_bind, Option.bind_some, hword "inf" (by decide),
    hword "infinity" (by decide), hword "nan" (by decide), Bool.or_self, Bool.false_eq_true,
    if_false]
  cases readDecimal? (spanSign t).2 <;> rfl

/-! ## With separators and without -/

theorem isDigit_eq_false_of_isSeparator {c : Char} (h : isSeparator c = true) : isDigit c = false :=
  isDigit_eq_false (s := (0x1C, 0x1F)) (by decide) (isSeparator_iff.mp h).1 (isSeparator_iff.mp h).2

theorem isSeparator_eq_false_of_isDigit {c : Char} (h : isDigit c = true) :
    isSeparator c = false := by
  rw [← Bool.not_eq_true]
  intro hs
  rw [isDigit_eq_false_of_isSeparator hs] at h
  cases h

theorem mem_spanSign {s : List Char} {c : Char} (hc : c ∈ s) (hs : isSeparator c = true) :
    c ∈ (spanSign s).2 := by
  unfold spanSign
  split
  · exact (List.mem_cons.mp hc).resolve_left fun e => by rw [e] at hs; cases hs
  · exact (List.mem_cons.mp hc).resolve_left fun e => by rw [e] at hs; cases hs
  · exact hc

theorem readExponent?_no_separator {s : List Char} {e : Int} (h : readExponent? s = some e)
    {c : Char} (hc : c ∈ s) : isSeparator c = false := by
  rw [← Bool.not_eq_true]
  intro hs
  cases s with
  | nil => cases hc
  | cons d s =>
    rw [readExponent?] at h
    dsimp only at h
    split at h
    · rename_i hform
      simp only [Bool.and_eq_true, Bool.or_eq_true, beq_iff_eq] at hform
      obtain ⟨⟨hmark, -⟩, hdigits⟩ := hform
      rcases List.mem_cons.mp hc with rfl | hc
      · rcases hmark with rfl | rfl <;> cases hs
      · have hdigit := List.all_eq_true.mp hdigits c (mem_spanSign hc hs)
        rw [isSeparator_eq_false_of_isDigit hdigit] at hs
        cases hs
    · cases h

/-- A decimal has no separator in it. -/
theorem readDecimal?_no_separator {s : List Char} {d : Decimal} (h : readDecimal? s = some d)
    {c : Char} (hc : c ∈ s) : isSeparator c = false := by
  have hsplit : s.takeWhile isDigit ++ s.dropWhile isDigit = s := List.takeWhile_append_dropWhile
  have hdigits : ∀ t : List Char, c ∈ t.takeWhile isDigit → isSeparator c = false := fun t ht =>
    isSeparator_eq_false_of_isDigit (isDigit_of_mem_takeWhile ht)
  unfold readDecimal? at h
  rw [spanDigits_eq] at h
  dsimp only at h
  rw [← hsplit] at hc
  rcases List.mem_append.mp hc with hc | hc
  · exact hdigits s hc
  split at h
  · rename_i rest hrest
    rw [spanDigits_eq] at h
    rw [hrest] at hc
    split at h
    · cases h
    obtain ⟨e, he, -⟩ := Option.map_eq_some_iff.mp h
    rcases List.mem_cons.mp hc with rfl | hc
    · rfl
    · rw [← List.takeWhile_append_dropWhile (p := isDigit) (l := rest)] at hc
      exact (List.mem_append.mp hc).elim (hdigits rest) (readExponent?_no_separator he)
  · split at h
    · cases h
    obtain ⟨e, he, -⟩ := Option.map_eq_some_iff.mp h
    exact readExponent?_no_separator he hc

/-- **A text with a separator in it is not read.** -/
theorem readDouble?_eq_none {s : String} {c : Char} (hc : c ∈ s.toList)
    (hs : isSeparator c = true) : readDouble? s = none := by
  have hpadding : isNumeralPadding c = false := by
    rw [isNumeralPadding_eq, hs, Bool.not_true, Bool.and_false]
  have htrim : c ∈ trimBy isNumeralPadding s.toList := mem_trimBy hc hpadding
  obtain ⟨hlo, hhi⟩ := isSeparator_iff.mp hs
  have hunderscore : c ≠ '_' := fun e => by
    rw [e] at hs
    cases hs
  cases ht : dropUnderscores false (trimBy isNumeralPadding s.toList) with
  | none => simp only [readDouble?, ht, Option.bind_eq_bind, Option.bind_none]
  | some t =>
    have hmem := mem_spanSign (mem_of_dropUnderscores ht htrim hunderscore) hs
    rw [readDouble?_eq ht hmem (toLower_eq_self (.inl (by omega)))
      fun h => by rw [(of_mem_wordLetters h).1] at hs; cases hs]
    cases hd : readDecimal? (spanSign t).2 with
    | none => rfl
    | some d =>
      rw [readDecimal?_no_separator hd hmem] at hs
      cases hs

/-- **An unsigned numeral is read, with a dash or without, once its padding is off.** -/
theorem readDouble?_of_unsigned {s : String} {body t : List Char} (hbody : Unsigned body)
    (hform : t = body ∨ t = '-' :: body) (htrim : trimBy isNumeralPadding s.toList = t) :
    ∃ x, readDouble? s = some x := by
  have hsign : (spanSign t).2 = body := by
    rcases hform with hform | hform <;> rw [hform]
    · rw [hbody.spanSign]
    · rfl
  have hunderscore : '_' ∉ t := by
    intro h
    rcases hbody.mem_signed hform h with h | h | h <;> exact absurd h (by decide)
  have hdrop : dropUnderscores false (trimBy isNumeralPadding s.toList) = some t := by
    rw [htrim, dropUnderscores_eq_self hunderscore]
  obtain ⟨c, hc⟩ := List.exists_mem_of_ne_nil body hbody.ne_nil
  obtain ⟨d, hd⟩ := hbody.readDecimal?
  refine ⟨_, (readDouble?_eq hdrop (c := c) (by rwa [hsign]) ?_ fun h => ?_).trans
    (by rw [hsign, hd]; rfl)⟩
  · rcases hbody.mem hc with hdigit | rfl
    · exact toLower_of_isDigit hdigit
    · rfl
  · obtain ⟨-, hdigit, hdot⟩ := of_mem_wordLetters h
    rcases hbody.mem hc with hc | hc
    · rw [hdigit] at hc
      cases hc
    · exact hdot hc

/-- **A plain numeral in white space without separators is read.** -/
theorem readDouble?_isSome {s : String} (h : isPlainNumeral (trim s).toList = true)
    (hs : ∀ c ∈ s.toList, isSeparator c = false) : ∃ x, readDouble? s = some x := by
  have htrim : trimBy isNumeralPadding s.toList = (trim s).toList := by
    rw [trim, String.toList_ofList]
    refine trimBy_congr fun c hc => ?_
    rw [isNumeralPadding_eq, hs c hc, Bool.not_false, Bool.and_true]
  obtain ⟨body, hbody, hform⟩ := unsigned_of_isPlainNumeral h
  exact readDouble?_of_unsigned hbody hform htrim

/-- **A plain numeral is not read exactly if there is a separator around it.** -/
theorem readDouble?_eq_none_iff {s : String} (h : isPlainNumeral (trim s).toList = true) :
    readDouble? s = none ↔ ∃ c ∈ s.toList, isSeparator c = true := by
  constructor
  · intro hnone
    by_contra hall
    obtain ⟨x, hx⟩ := readDouble?_isSome h fun c hc => by
      rw [← Bool.not_eq_true]
      exact fun hsep => hall ⟨c, hc, hsep⟩
    rw [hx] at hnone
    cases hnone
  · rintro ⟨c, hc, hsep⟩
    exact readDouble?_eq_none hc hsep

/-- **Digits are read as the number nearest to the one that they write.** -/
theorem readDouble?_digits {ds : List Char} (hds : IsDigits ds) (hne : ds ≠ []) :
    readDouble? (String.ofList ds)
      = some (Double.ofDecimal false ⟨Nat.ofDigitChars 10 ds 0, 0⟩) := by
  have hdigits := hds.isDigit
  have hunsigned : Unsigned ds :=
    ⟨ds, [], (List.append_nil ds).symm, hdigits, .inl ⟨rfl, hne⟩⟩
  have htrim : trimBy isNumeralPadding ds = ds := trimBy_eq_self fun c hc => by
    rw [isNumeralPadding_eq, isBlank_eq_false_of_isDigit (hdigits c hc), Bool.false_and]
  have hunderscore : '_' ∉ ds := fun h => absurd (hdigits _ h) (by decide)
  have hdrop : dropUnderscores false (trimBy isNumeralPadding (String.ofList ds).toList)
      = some ds := by
    rw [String.toList_ofList, htrim, dropUnderscores_eq_self hunderscore]
  obtain ⟨c, hc⟩ := List.exists_mem_of_ne_nil ds hne
  have hletter : c ∉ wordLetters := fun h => by
    have hdigit := hdigits c hc
    rw [(of_mem_wordLetters h).2.1] at hdigit
    cases hdigit
  have hempty : ds.isEmpty = false := by simpa using hne
  have hdecimal : readDecimal? ds = some ⟨Nat.ofDigitChars 10 ds 0, 0⟩ := by
    have hnone (n : Nat) : readDigits n [] = n := rfl
    simp [readDecimal?, spanDigits_of_digits hdigits, hempty, readExponent?, hds.readDigits_eq,
      hnone]
  have hlower := toLower_of_isDigit (hdigits c hc)
  rw [readDouble?_eq hdrop (by rwa [hunsigned.spanSign]) hlower hletter, hunsigned.spanSign,
    hdecimal]
  rfl

/-! ## Numerals within a text -/

section Found

variable {s numeral : List Char} {c : Char}

theorem Unsigned.exists_isDigit {body : List Char} (h : Unsigned body) :
    ∃ c ∈ body, isDigit c = true := by
  obtain ⟨whole, tail, rfl, hwhole, htail⟩ := h
  rcases htail with ⟨rfl, hne⟩ | ⟨fraction, rfl, hne, hfraction⟩
  · obtain ⟨c, hc⟩ := List.exists_mem_of_ne_nil whole hne
    exact ⟨c, List.mem_append_left _ hc, hwhole c hc⟩
  · obtain ⟨c, hc⟩ := List.exists_mem_of_ne_nil fraction hne
    exact ⟨c, List.mem_append_right _ (List.mem_cons_of_mem _ hc), hfraction c hc⟩

/-- What is found at the head of a text is unsigned, maybe after a dash. -/
theorem unsigned_of_plainNumeralAt? (h : plainNumeralAt? s = some numeral) :
    ∃ body, Unsigned body ∧ (numeral = body ∨ numeral = '-' :: body) ∧ numeral <+: s := by
  unfold plainNumeralAt? at h
  split at h
  · obtain ⟨⟨m, rest⟩, hspan, rfl⟩ := Option.map_eq_some_iff.mp h
    obtain ⟨hm, rfl⟩ := unsigned_of_spanUnsigned? hspan
    exact ⟨m, hm, .inr rfl, rest, rfl⟩
  · obtain ⟨⟨m, rest⟩, hspan, rfl⟩ := Option.map_eq_some_iff.mp h
    obtain ⟨hm, rfl⟩ := unsigned_of_spanUnsigned? hspan
    exact ⟨m, hm, .inl rfl, rest, rfl⟩

/-- A numeral is found where a digit stands. -/
theorem plainNumeralAt?_isSome (hc : isDigit c = true) (s : List Char) :
    (plainNumeralAt? (c :: s)).isSome = true := by
  have hspan : (spanUnsigned? (c :: s)).isSome = true := by
    have hdigits : spanDigits (c :: s) = (c :: s.takeWhile isDigit, s.dropWhile isDigit) := by
      rw [spanDigits_eq, List.takeWhile_cons_of_pos hc, List.dropWhile_cons_of_pos hc]
    rw [spanUnsigned?, hdigits]
    split
    · rename_i hnil
      cases hnil
    · split <;> rfl
    · rfl
  unfold plainNumeralAt?
  split
  · rename_i hdash
    cases hdash
    exact absurd hc (by decide)
  · rwa [Option.isSome_map]

/-- **The first numeral in a text is unsigned, maybe after a dash.** -/
theorem unsigned_of_firstPlainNumeral? (h : firstPlainNumeral? s = some numeral) :
    ∃ body, Unsigned body ∧ (numeral = body ∨ numeral = '-' :: body) ∧ numeral <:+: s := by
  induction s with
  | nil => cases h
  | cons c s ih =>
    rw [firstPlainNumeral?] at h
    split at h
    · rename_i found hat
      cases h
      obtain ⟨body, hbody, hform, hhead⟩ := unsigned_of_plainNumeralAt? hat
      exact ⟨body, hbody, hform, hhead.isInfix⟩
    · obtain ⟨body, hbody, hform, hpiece⟩ := ih h
      exact ⟨body, hbody, hform, List.infix_cons hpiece⟩

/-- **A text has no numeral in it exactly if it has no digit.** -/
theorem firstPlainNumeral?_eq_none_iff :
    firstPlainNumeral? s = none ↔ ∀ c ∈ s, isDigit c = false := by
  constructor
  · intro h
    induction s with
    | nil => nofun
    | cons c s ih =>
      rw [firstPlainNumeral?] at h
      split at h
      · cases h
      · rename_i hat
        refine List.forall_mem_cons.mpr ⟨?_, ih h⟩
        rw [← Bool.not_eq_true]
        intro hc
        have hsome := plainNumeralAt?_isSome hc s
        rw [hat] at hsome
        cases hsome
  · intro h
    cases hfirst : firstPlainNumeral? s with
    | none => rfl
    | some numeral =>
      obtain ⟨body, hbody, hform, hpiece⟩ := unsigned_of_firstPlainNumeral? hfirst
      obtain ⟨c, hc, hdigit⟩ := hbody.exists_isDigit
      have hmem : c ∈ numeral := by
        rcases hform with rfl | rfl
        · exact hc
        · exact List.mem_cons_of_mem _ hc
      rw [h c (hpiece.subset hmem)] at hdigit
      cases hdigit

/-- **A numeral that is found is read.** -/
theorem readDouble?_firstPlainNumeral? (h : firstPlainNumeral? s = some numeral) :
    ∃ x, readDouble? (String.ofList numeral) = some x := by
  obtain ⟨body, hbody, hform, -⟩ := unsigned_of_firstPlainNumeral? h
  refine readDouble?_of_unsigned hbody hform ?_
  rw [String.toList_ofList]
  refine trimBy_eq_self fun c hc => ?_
  rcases hbody.mem_signed hform hc with hdigit | rfl | rfl
  · rw [isNumeralPadding_eq, isBlank_eq_false_of_isDigit hdigit, Bool.false_and]
  · decide
  · decide

end Found

end CardQuery

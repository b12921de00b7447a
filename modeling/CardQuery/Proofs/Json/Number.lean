import CardQuery.Json.Writer
import CardQuery.Proofs.Number.Rounding
import CardQuery.Proofs.Text.Digit

/-!
# Proofs/Json/Number — numbers in a document are read back

* `readNumber?_int` — a whole number is read back exactly.
* `readNumber?_renderDouble` — and so is a finite double: its shortest digits are read as the
  decimal that they stand for, in each way of laying them out, and that decimal rounds to the
  number.

A text is followed by the rest of the document, which must not go on with a character that a number
may go on with (`EndsNumber`).
-/

namespace CardQuery

/-! ## The parts of a number -/

namespace Json

/-- The rest of a document after a number: nothing that the number could go on with. -/
def EndsNumber (rest : List Char) : Prop :=
  ∀ c ∈ rest.head?, c.isDigit = false ∧ c ≠ '.' ∧ c ≠ 'e' ∧ c ≠ 'E'

theorem endsNumber_nil : EndsNumber [] := nofun

/-- Digits that may be the whole part of a number: there are some, and the first of several is no
zero. -/
def IsWhole (ds : List Char) : Prop := IsDigits ds ∧ ds ≠ [] ∧ ∀ c d es, ds = c :: d :: es → c ≠ '0'

variable {whole fraction rest : List Char}

theorem readWhole?_append (hwhole : IsWhole whole) (hrest : ∀ c ∈ rest.head?, c.isDigit = false) :
    readWhole? (whole ++ rest) = some (whole, rest) := by
  obtain ⟨hdigits, hne, hlead⟩ := hwhole
  rw [readWhole?, hdigits.span hrest]
  split
  · rename_i heq
    cases heq
    exact absurd rfl hne
  · rename_i heq
    cases heq
    exact absurd rfl (hlead _ _ _ rfl)
  · rfl

theorem readFraction?_append (hfraction : IsDigits fraction) (hne : fraction ≠ [])
    (hrest : ∀ c ∈ rest.head?, c.isDigit = false) :
    readFraction? ('.' :: (fraction ++ rest)) = some (fraction, rest) := by
  rw [readFraction?, hfraction.span hrest]
  split
  · rename_i heq
    cases heq
    exact absurd rfl hne
  · rfl

theorem readFraction?_none (hrest : ∀ c ∈ rest.head?, c ≠ '.') :
    readFraction? rest = some ([], rest) := by
  unfold readFraction?
  split
  · exact absurd rfl (hrest '.' rfl)
  · rfl

theorem readPower?_none (hrest : EndsNumber rest) : readPower? rest = some (none, rest) := by
  cases rest with
  | nil => rfl
  | cons c rest =>
    obtain ⟨-, -, he, hE⟩ := hrest c rfl
    have hmark : (c == 'e' || c == 'E') = false := by simp [he, hE]
    rw [readPower?, hmark]
    rfl

/-- An exponent with its sign and any number of zeros before its digits. -/
theorem readPower?_append (e : Int) (zeros : Nat) (hrest : ∀ c ∈ rest.head?, c.isDigit = false) :
    readPower? ('e' :: (if e < 0 then '-' else '+') ::
        (List.replicate zeros '0' ++ Nat.toDigits 10 e.natAbs ++ rest)) = some (some e, rest) := by
  have hdigits : IsDigits (List.replicate zeros '0' ++ Nat.toDigits 10 e.natAbs) :=
    (IsDigits.zeros zeros).append (.toDigits _)
  have hne : List.replicate zeros '0' ++ Nat.toDigits 10 e.natAbs ≠ [] :=
    List.append_ne_nil_of_right_ne_nil _ Nat.toDigits_ne_nil
  have hvalue : Text.readDigits 0 (List.replicate zeros '0' ++ Nat.toDigits 10 e.natAbs)
      = e.natAbs := by
    rw [hdigits.readDigits_eq, Nat.ofDigitChars_append, Nat.ofDigitChars_replicate_zero,
      Nat.mul_zero, Nat.ofDigitChars_toDigits (by decide) (by decide)]
  generalize List.replicate zeros '0' ++ Nat.toDigits 10 e.natAbs = ds at hdigits hne hvalue ⊢
  have hsign : spanSign ((if e < 0 then '-' else '+') :: (ds ++ rest))
      = (decide (e < 0), ds ++ rest) := by
    split
    · rename_i hneg
      rw [decide_eq_true hneg]
      rfl
    · rename_i hneg
      rw [decide_eq_false hneg]
      rfl
  have habs : (if decide (e < 0) = true then -(e.natAbs : Int) else e.natAbs) = e := by
    simp only [decide_eq_true_eq]
    omega
  obtain ⟨d, ds, rfl⟩ := List.exists_cons_of_ne_nil hne
  have hmark : ('e' == 'e' || 'e' == 'E') = true := rfl
  simp only [readPower?, hmark, if_true, hsign, hdigits.span hrest, hvalue, habs]

/-- A number after its sign. -/
def readUnsigned? (negative : Bool) (body : List Char) : Option (Json × List Char) := do
  let (whole, rest) ← readWhole? body
  let (fraction, rest) ← readFraction? rest
  let (power, rest) ← readPower? rest
  if fraction.isEmpty && power.isNone then
    let n : Int := Text.readDigits 0 whole
    return (.int (if negative then -n else n), rest)
  else
    let digits := Text.readDigits (Text.readDigits 0 whole) fraction
    return (.double (Double.ofDecimal negative ⟨digits, power.getD 0 - fraction.length⟩), rest)

theorem readNumber?_dash (body : List Char) :
    readNumber? ('-' :: body) = readUnsigned? true body := rfl

theorem readNumber?_of_ne_dash {c : Char} (hc : c ≠ '-') (body : List Char) :
    readNumber? (c :: body) = readUnsigned? false (c :: body) := by
  unfold readNumber?
  split
  rename_i hstart
  split at hstart
  · rename_i heq
    exact absurd (List.cons.inj heq).1 hc
  · cases hstart
    rfl

theorem ne_dash_of_isDigit {c : Char} (hc : c.isDigit = true) : c ≠ '-' := by
  rintro rfl
  cases hc

/-- What is read as a number without its sign begins with a digit. -/
theorem exists_cons_of_readUnsigned? {negative : Bool} {s : List Char} {found : Json × List Char}
    (h : readUnsigned? negative s = some found) : ∃ c t, s = c :: t ∧ c.isDigit = true := by
  cases s with
  | nil => cases h
  | cons c t =>
    refine ⟨c, t, rfl, ?_⟩
    by_contra hc
    have hnone : readWhole? (c :: t) = none := by
      rw [readWhole?, List.span_eq_takeWhile_dropWhile, List.takeWhile_cons_of_neg hc]
    rw [readUnsigned?, hnone] at h
    cases h

/-- What is read as a number begins with a dash or a digit. -/
theorem exists_cons_of_readNumber? {s : List Char} {found : Json × List Char}
    (h : readNumber? s = some found) : ∃ c t, s = c :: t ∧ (c = '-' ∨ c.isDigit = true) := by
  cases s with
  | nil => cases h
  | cons c t =>
    refine ⟨c, t, rfl, ?_⟩
    by_cases hdash : c = '-'
    · exact .inl hdash
    · rw [readNumber?_of_ne_dash hdash] at h
      obtain ⟨c', t', heq, hc⟩ := exists_cons_of_readUnsigned? h
      rw [(List.cons.inj heq).1]
      exact .inr hc

/-- What the parts of a number are read as, if it is more than a whole part. -/
theorem readUnsigned?_double {negative : Bool} {body afterWhole afterFraction : List Char}
    {power : Option Int} (hwhole : readWhole? body = some (whole, afterWhole))
    (hfraction : readFraction? afterWhole = some (fraction, afterFraction))
    (hpower : readPower? afterFraction = some (power, rest))
    (hdouble : (fraction.isEmpty && power.isNone) = false) :
    readUnsigned? negative body
      = some (.double (Double.ofDecimal negative
          ⟨Text.readDigits (Text.readDigits 0 whole) fraction, power.getD 0 - fraction.length⟩),
        rest) := by
  unfold readUnsigned?
  simp only [hwhole, hfraction, hpower, hdouble, Option.bind_eq_bind, Option.bind_some,
    Bool.false_eq_true, if_false, Option.pure_def]

/-- A whole number is read when nothing of a double follows it. -/
theorem readUnsigned?_int {negative : Bool} (hwhole : IsWhole whole) (hrest : EndsNumber rest) :
    readUnsigned? negative (whole ++ rest)
      = some (.int (if negative then -(Nat.ofDigitChars 10 whole 0 : Int)
          else Nat.ofDigitChars 10 whole 0), rest) := by
  unfold readUnsigned?
  rw [readWhole?_append hwhole fun c hc => (hrest c hc).1]
  simp only [readFraction?_none fun c hc => (hrest c hc).2.1, readPower?_none hrest,
    hwhole.1.readDigits_eq, Option.bind_eq_bind, Option.bind_some, List.isEmpty_nil,
    Option.isNone_none, Bool.and_self, if_true, Option.pure_def]

theorem IsWhole.toDigits (n : Nat) : IsWhole (Nat.toDigits 10 n) := by
  refine ⟨.toDigits n, Nat.toDigits_ne_nil, fun c d es heq => ?_⟩
  rcases Nat.eq_zero_or_pos n with rfl | hn
  · cases heq
  · obtain ⟨c', ds, hds, hc'⟩ := exists_toDigits_eq_cons hn
    rw [heq] at hds
    rwa [(List.cons.inj hds).1]

/-- **A whole number is read back.** -/
theorem readNumber?_int (n : Int) (hrest : EndsNumber rest) :
    readNumber? ((toString n).toList ++ rest) = some (.int n, rest) := by
  have hvalue (m : Nat) : Nat.ofDigitChars 10 (Nat.toDigits 10 m) 0 = m :=
    Nat.ofDigitChars_toDigits (by decide) (by decide)
  rcases n with n | n
  · have hdigits : (toString (Int.ofNat n)).toList = Nat.toDigits 10 n := Nat.toList_repr
    obtain ⟨c, ds, hds⟩ := List.exists_cons_of_ne_nil (Nat.toDigits_ne_nil (n := n) (b := 10))
    have hc : c.isDigit = true := IsDigits.toDigits n c (by rw [hds]; exact List.mem_cons_self)
    rw [hdigits, hds, List.cons_append, readNumber?_of_ne_dash (ne_dash_of_isDigit hc),
      ← List.cons_append, ← hds,
      readUnsigned?_int (.toDigits n) hrest, hvalue]
    rfl
  · have hdigits : (toString (Int.negSucc n)).toList = '-' :: Nat.toDigits 10 (n + 1) := by
      simp [ToString.toString, Int.repr]
    rw [hdigits, List.cons_append, readNumber?_dash, readUnsigned?_int (.toDigits _) hrest, hvalue]
    rfl

/-! ## Doubles -/

/-- A text that is read as a double, namely as the one nearest to a decimal. -/
def ReadsAs (s : List Char) (d : Decimal) : Prop :=
  ∀ negative rest, EndsNumber rest →
    readUnsigned? negative (s ++ rest) = some (.double (Double.ofDecimal negative d), rest)

variable {ds : List Char}

/-- Digits with a fraction. -/
theorem readsAs_fraction (hwhole : IsWhole whole) (hfraction : IsDigits fraction)
    (hne : fraction ≠ []) :
    ReadsAs (whole ++ '.' :: fraction)
      ⟨Nat.ofDigitChars 10 (whole ++ fraction) 0, -(fraction.length : Int)⟩ := by
  intro negative rest hrest
  have hend : ∀ c ∈ rest.head?, c.isDigit = false := fun c hc => (hrest c hc).1
  have hdouble : (fraction.isEmpty && (none : Option Int).isNone) = false := by simpa using hne
  rw [List.append_assoc, List.cons_append, readUnsigned?_double
    (readWhole?_append hwhole fun c hc => by cases hc; rfl)
    (readFraction?_append hfraction hne hend) (readPower?_none hrest) hdouble,
    hwhole.1.readDigits_eq, hfraction.readDigits_eq, Nat.ofDigitChars_append, Option.getD_none,
    Int.zero_sub]

theorem ReadsAs.congr {s : List Char} {d d' : Decimal} (h : ReadsAs s d)
    (hround : ∀ negative, Double.ofDecimal negative d = Double.ofDecimal negative d') :
    ReadsAs s d' := by
  intro negative rest hrest
  rw [h negative rest hrest, hround]

theorem IsWhole.of_cons {c : Char} (hds : IsDigits (c :: ds)) (hc : c ≠ '0') :
    IsWhole (c :: ds) :=
  ⟨hds, List.cons_ne_nil _ _, fun c' d es heq => by rwa [← (List.cons.inj heq).1]⟩

/-- **Digits with the decimal point written out are read**: with zeros before them, with zeros after
them, or with the point between them. -/
theorem readsAs_positional {c : Char} (hds : IsDigits (c :: ds)) (hc : c ≠ '0') (point : Int) :
    ReadsAs (positional (c :: ds) point)
      ⟨Nat.ofDigitChars 10 (c :: ds) 0, point - (c :: ds).length⟩ := by
  unfold positional
  split
  · rename_i hpoint
    have hfraction : IsDigits (List.replicate (-point).toNat '0' ++ c :: ds) :=
      (IsDigits.zeros _).append hds
    have hzero : IsWhole ['0'] := .toDigits 0
    have hread := readsAs_fraction hzero hfraction
      (List.append_ne_nil_of_right_ne_nil _ (List.cons_ne_nil c ds))
    have hvalue : Nat.ofDigitChars 10 (['0'] ++ (List.replicate (-point).toNat '0' ++ c :: ds)) 0
        = Nat.ofDigitChars 10 (c :: ds) 0 := by
      rw [Nat.ofDigitChars_append, Nat.ofDigitChars_append, Nat.ofDigitChars_replicate_zero]
      rfl
    have hexponent : -((List.replicate (-point).toNat '0' ++ c :: ds).length : Int)
        = point - (c :: ds).length := by
      rw [List.length_append, List.length_replicate]
      omega
    rwa [hvalue, hexponent] at hread
  dsimp only
  split
  · rename_i hpoint hlong
    have hwhole : IsWhole (c :: ds ++ List.replicate (point.toNat - (c :: ds).length) '0') :=
      .of_cons (hds.append (.zeros _)) hc
    have hread := readsAs_fraction hwhole (.zeros 1) (List.cons_ne_nil _ _)
    refine hread.congr fun negative => ?_
    have hvalue : Nat.ofDigitChars 10
        (c :: ds ++ List.replicate (point.toNat - (c :: ds).length) '0' ++ List.replicate 1 '0') 0
        = Nat.ofDigitChars 10 (c :: ds) 0 * 10 ^ (point.toNat - (c :: ds).length + 1) := by
      rw [List.append_assoc, List.replicate_append_replicate, Nat.ofDigitChars_append,
        Nat.ofDigitChars_replicate_zero, Nat.mul_comm]
    have hexponent : -((List.replicate 1 '0').length : Int)
          + (point.toNat - (c :: ds).length + 1 : Nat) = point - (c :: ds).length := by
      rw [List.length_replicate]
      omega
    rw [hvalue, Double.ofDecimal_mul_pow, hexponent]
  · rename_i hpoint hshort
    obtain ⟨n, hn⟩ : ∃ n, point.toNat = n + 1 := Nat.exists_eq_succ_of_ne_zero (by omega)
    have hwhole : IsWhole ((c :: ds).take point.toNat) := by
      have htake := hds.take point.toNat
      rw [hn, List.take_succ_cons] at htake ⊢
      exact .of_cons htake hc
    have hfraction : (c :: ds).drop point.toNat ≠ [] := by
      rw [ne_eq, List.drop_eq_nil_iff]
      exact hshort
    have hread := readsAs_fraction hwhole (hds.drop point.toNat) hfraction
    have hexponent : -(((c :: ds).drop point.toNat).length : Int) = point - (c :: ds).length := by
      rw [List.length_drop]
      omega
    rwa [List.take_append_drop, hexponent] at hread

/-- **Digits with an exponent are read.** -/
theorem readsAs_scientific {c : Char} (hds : IsDigits (c :: ds)) (width : Nat) (point : Int) :
    ReadsAs (scientific width (c :: ds) point)
      ⟨Nat.ofDigitChars 10 (c :: ds) 0, point - (c :: ds).length⟩ := by
  intro negative rest hrest
  have hwhole : IsWhole [c] :=
    ⟨hds.take 1, List.cons_ne_nil _ _, fun c' d es heq => by cases heq⟩
  have htail : IsDigits ds := hds.drop 1
  have hpower := readPower?_append (point - 1)
    (width - (Nat.toDigits 10 (point - 1).natAbs).length) fun c hc => (hrest c hc).1
  have hsplit : scientific width (c :: ds) point ++ rest
      = [c] ++ ((if (c :: ds).length ≤ 1 then [] else '.' :: ds)
        ++ 'e' :: (if point - 1 < 0 then '-' else '+') ::
          (List.replicate (width - (Nat.toDigits 10 (point - 1).natAbs).length) '0'
            ++ Nat.toDigits 10 (point - 1).natAbs ++ rest)) := by
    simp only [scientific, List.take_succ_cons, List.take_zero, List.drop_succ_cons, List.drop_zero,
      List.append_assoc, List.cons_append]
  generalize hmark : 'e' :: (if point - 1 < 0 then '-' else '+') ::
    (List.replicate (width - (Nat.toDigits 10 (point - 1).natAbs).length) '0'
      ++ Nat.toDigits 10 (point - 1).natAbs ++ rest) = mark at hpower hsplit
  have hhead : mark.head? = some 'e' := by rw [← hmark, List.head?_cons]
  have hfraction : readFraction? ((if (c :: ds).length ≤ 1 then [] else '.' :: ds) ++ mark)
      = some (ds, mark) := by
    cases ds with
    | nil =>
      have hnone : readFraction? mark = some ([], mark) :=
        readFraction?_none fun d hd => by rw [hhead] at hd; cases hd; decide
      exact hnone
    | cons d ds =>
      exact readFraction?_append htail (List.cons_ne_nil d ds) fun d hd => by
        rw [hhead] at hd
        cases hd
        rfl
  have hnodigit : ∀ d ∈ ((if (c :: ds).length ≤ 1 then [] else '.' :: ds) ++ mark).head?,
      d.isDigit = false := by
    intro d hd
    split at hd
    · rw [List.nil_append, hhead] at hd
      cases hd
      rfl
    · cases hd
      rfl
  have hexponent : point - 1 - (ds.length : Int) = point - (c :: ds).length := by
    rw [List.length_cons]
    omega
  have hvalue : Nat.ofDigitChars 10 ds (Nat.ofDigitChars 10 [c] 0)
      = Nat.ofDigitChars 10 (c :: ds) 0 := (Nat.ofDigitChars_append 0).symm
  rw [hsplit, readUnsigned?_double (readWhole?_append hwhole hnodigit) hfraction hpower
    (Bool.and_false _), hwhole.1.readDigits_eq, htail.readDigits_eq, hvalue, Option.getD_some,
    hexponent]

/-! ## Layouts -/

/-- The digits of a positive decimal without the zeros at their end: they start with no zero, and
with the exponent that the point stands for they are the same decimal. -/
theorem exists_figures_eq {d : Decimal} (hd : d.digits ≠ 0) :
    ∃ c ds, d.figures.1 = c :: ds ∧ c ≠ '0' ∧ IsDigits (c :: ds) ∧ ∀ negative,
      Double.ofDecimal negative
          ⟨Nat.ofDigitChars 10 (c :: ds) 0, d.figures.2 - (c :: ds).length⟩
        = Double.ofDecimal negative d := by
  obtain ⟨c, tail, hdigits, hc⟩ := exists_toDigits_eq_cons (Nat.pos_of_ne_zero hd)
  have hsplit : d.figures.1 ++ ((Nat.toDigits 10 d.digits).reverse.takeWhile (· == '0')).reverse
      = Nat.toDigits 10 d.digits := by
    rw [Decimal.figures, Text.dropTail, ← List.reverse_append, List.takeWhile_append_dropWhile,
      List.reverse_reverse]
  have hzeros : ∀ c ∈ ((Nat.toDigits 10 d.digits).reverse.takeWhile (· == '0')).reverse,
      c = '0' := fun c hc => beq_iff_eq.mp (List.all_eq_true.mp
        (List.all_takeWhile (p := (· == '0'))) c (List.mem_reverse.mp hc))
  generalize ((Nat.toDigits 10 d.digits).reverse.takeWhile (· == '0')).reverse = zeros
    at hsplit hzeros
  obtain ⟨k, rfl⟩ : ∃ k, zeros = List.replicate k '0' :=
    ⟨zeros.length, List.eq_replicate_of_mem hzeros⟩
  cases hfigures : d.figures.1 with
  | nil =>
    rw [hfigures, List.nil_append, hdigits] at hsplit
    exact absurd (hzeros c (by rw [hsplit]; exact List.mem_cons_self)) hc
  | cons c' ds =>
    rw [hfigures] at hsplit
    have hall : IsDigits (c' :: ds ++ List.replicate k '0') := hsplit ▸ .toDigits d.digits
    refine ⟨c', ds, rfl, ?_, fun e he => hall e (List.mem_append_left _ he), fun negative => ?_⟩
    · rw [hdigits] at hsplit
      rwa [(List.cons.inj hsplit).1]
    · have hvalue : Nat.ofDigitChars 10 (c' :: ds) 0 * 10 ^ k = d.digits := by
        rw [Nat.mul_comm, ← Nat.ofDigitChars_replicate_zero, ← Nat.ofDigitChars_append, hsplit,
          Nat.ofDigitChars_toDigits (by decide) (by decide)]
      have hpoint : d.figures.2 - (c' :: ds).length = d.exponent + k := by
        have hlength := congrArg List.length hsplit
        rw [List.length_append, List.length_replicate] at hlength
        rw [Decimal.figures, ← hlength]
        omega
      rw [hpoint, ← Double.ofDecimal_mul_pow, hvalue]

/-- A text that is read as a double is read after a sign as well. -/
theorem ReadsAs.readNumber? {s : List Char} {d : Decimal} (h : ReadsAs s d) (negative : Bool)
    (hrest : EndsNumber rest) :
    readNumber? ((if negative then '-' :: s else s) ++ rest)
      = some (.double (Double.ofDecimal negative d), rest) := by
  cases negative with
  | true => exact h true rest hrest
  | false =>
    have hread := h false rest hrest
    obtain ⟨c, t, hstart, hc⟩ := exists_cons_of_readUnsigned? hread
    rwa [if_neg Bool.false_ne_true, hstart, readNumber?_of_ne_dash (ne_dash_of_isDigit hc),
      ← hstart]

/-- The digits of a number, in the way that a layout chooses for them. -/
theorem readsAs_size {c : Char} (hds : IsDigits (c :: ds)) {point : Int} (written : Bool)
    (hc : c ≠ '0' ∨ (c :: ds, point) = (['0'], 1)) (width : Nat) :
    ReadsAs (if written then positional (c :: ds) point else scientific width (c :: ds) point)
      ⟨Nat.ofDigitChars 10 (c :: ds) 0, point - (c :: ds).length⟩ := by
  cases written with
  | false => exact readsAs_scientific hds width point
  | true =>
    rcases hc with hc | hzero
    · exact readsAs_positional hds hc point
    · cases hzero
      have hzero : IsWhole ['0'] := .toDigits 0
      have hvalue : Nat.ofDigitChars 10 (['0'] ++ List.replicate 1 '0') 0 = 0 := rfl
      have hvalue' : Nat.ofDigitChars 10 ['0'] 0 = 0 := rfl
      refine (readsAs_fraction hzero (.zeros 1) (List.cons_ne_nil _ _)).congr fun negative => ?_
      rw [hvalue, hvalue', Double.ofDecimal_zero, Double.ofDecimal_zero]

/-- The digits that a finite number is written with, in any layout, stand for the number. -/
theorem exists_written_figures {x : Double} (hx : x.isFinite = true) :
    ∃ c ds point, (if x.units == 0 then (['0'], 1) else x.shortest.figures) = (c :: ds, point)
      ∧ IsDigits (c :: ds) ∧ (c ≠ '0' ∨ (c :: ds, point) = (['0'], 1))
      ∧ Double.ofDecimal x.isNegative
          ⟨Nat.ofDigitChars 10 (c :: ds) 0, point - (c :: ds).length⟩ = x := by
  by_cases hunits : x.units = 0
  · have hvalue : Nat.ofDigitChars 10 ['0'] 0 = 0 := rfl
    refine ⟨'0', [], 1, if_pos (beq_iff_eq.mpr hunits), .zeros 1, .inr rfl, ?_⟩
    rw [hvalue, Double.ofDecimal_zero]
    exact (Double.eq_zero hx hunits).symm
  · obtain ⟨c, ds, hfigures, hc, hds, heq⟩ :=
      exists_figures_eq (Double.shortest_digits_ne_zero hx hunits)
    refine ⟨c, ds, x.shortest.figures.2, ?_, hds, .inl hc, ?_⟩
    · rw [if_neg (by rwa [beq_iff_eq]), ← hfigures]
    · rw [heq, Double.ofDecimal_shortest hx]

/-- **A finite number is read back in every layout.** -/
theorem readNumber?_write {x : Double} (hx : x.isFinite = true) (l : Layout)
    (hrest : EndsNumber rest) : readNumber? (l.write x ++ rest) = some (.double x, rest) := by
  obtain ⟨c, ds, point, hwritten, hds, hc, hround⟩ := exists_written_figures hx
  have hread := (readsAs_size hds (l.lowest ≤ point - 1 && point - 1 ≤ l.highest) hc
    l.exponentWidth).readNumber? x.isNegative hrest
  rw [hround] at hread
  rw [Layout.write, hwritten]
  exact hread

/-- **A finite double is read back.** -/
theorem readNumber?_renderDouble {x : Double} (hx : x.isFinite = true) (hrest : EndsNumber rest) :
    readNumber? (renderDouble x ++ rest) = some (.double x, rest) := by
  rw [renderDouble, if_pos hx]
  exact readNumber?_write hx Layout.json hrest

end Json

end CardQuery

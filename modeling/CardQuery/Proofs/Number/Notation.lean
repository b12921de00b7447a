import CardQuery.Number.Notation

/-!
# Proofs/Number/Notation — the characters of written numbers

* `Layout.write_isNumeral` — a finite number is written with digits, signs, a decimal point and the
  letter of an exponent, in every layout.
-/

namespace CardQuery

/-- Whether a character may stand in a written number. -/
def isNumeralChar (c : Char) : Bool := c.isDigit || ['-', '+', '.', 'e'].contains c

/-- Whether a text is made of the characters of numbers. -/
def IsNumeral (s : List Char) : Prop := ∀ c ∈ s, isNumeralChar c = true

namespace IsNumeral

variable {s t : List Char} {c : Char}

theorem append (hs : IsNumeral s) (ht : IsNumeral t) : IsNumeral (s ++ t) :=
  List.forall_mem_append.mpr ⟨hs, ht⟩

theorem cons (hc : isNumeralChar c = true) (hs : IsNumeral s) : IsNumeral (c :: s) :=
  List.forall_mem_cons.mpr ⟨hc, hs⟩

theorem zeros (n : Nat) : IsNumeral (List.replicate n '0') := fun c hc => by
  rw [List.eq_of_mem_replicate hc]
  rfl

theorem take (hs : IsNumeral s) (n : Nat) : IsNumeral (s.take n) := fun c hc =>
  hs c (List.mem_of_mem_take hc)

theorem drop (hs : IsNumeral s) (n : Nat) : IsNumeral (s.drop n) := fun c hc =>
  hs c (List.mem_of_mem_drop hc)

theorem toDigits (n : Nat) : IsNumeral (Nat.toDigits 10 n) := fun _ hc =>
  Bool.or_eq_true_iff.mpr (.inl (Nat.isDigit_of_mem_toDigits (by decide) (by decide) hc))

theorem toString (n : Int) : IsNumeral (toString n).toList := by
  rcases n with n | n
  · have hdigits : (ToString.toString (Int.ofNat n)).toList = Nat.toDigits 10 n := Nat.toList_repr
    rw [hdigits]
    exact toDigits n
  · have hdigits : (ToString.toString (Int.negSucc n)).toList = '-' :: Nat.toDigits 10 (n + 1) := by
      simp [ToString.toString, Int.repr]
    rw [hdigits]
    exact cons rfl (toDigits (n + 1))

theorem figures (d : Decimal) : IsNumeral d.figures.1 := fun c hc =>
  have hmem : c ∈ (Nat.toDigits 10 d.digits).reverse :=
    (List.dropWhile_suffix _).subset (List.mem_reverse.mp hc)
  toDigits _ c (List.mem_reverse.mp hmem)

theorem positional (hs : IsNumeral s) (point : Int) : IsNumeral (positional s point) := by
  rw [CardQuery.positional]
  split
  · exact (cons rfl (cons rfl (zeros _))).append hs
  · dsimp only
    split
    · exact (hs.append (zeros _)).append (cons rfl (cons rfl nofun))
    · exact (hs.take _).append (cons rfl (hs.drop _))

theorem scientific (hs : IsNumeral s) (width : Nat) (point : Int) :
    IsNumeral (scientific width s point) := by
  have hfraction : IsNumeral (if s.length ≤ 1 then [] else '.' :: s.drop 1) := by
    split
    · nofun
    · exact cons rfl (hs.drop 1)
  have hsign : isNumeralChar (if point - 1 < 0 then '-' else '+') = true := by
    split
    · rfl
    · rfl
  have hmark : IsNumeral ('e' :: (if point - 1 < 0 then '-' else '+') ::
      List.replicate (width - (Nat.toDigits 10 (point - 1).natAbs).length) '0') :=
    cons rfl (cons hsign (zeros _))
  exact (((hs.take 1).append hfraction).append hmark).append (toDigits _)

end IsNumeral

/-- **A finite number is written with the characters of numbers.** -/
theorem Layout.write_isNumeral (l : Layout) (x : Double) : IsNumeral (l.write x) := by
  have hfigures : IsNumeral (if x.units == 0 then (['0'], 1) else x.shortest.figures).1 := by
    split
    · exact IsNumeral.zeros 1
    · exact IsNumeral.figures _
  rw [write]
  generalize (if x.units == 0 then (['0'], 1) else x.shortest.figures) = figures at hfigures ⊢
  obtain ⟨ds, point⟩ := figures
  have hsize : IsNumeral (if l.lowest ≤ point - 1 && point - 1 ≤ l.highest then positional ds point
      else scientific l.exponentWidth ds point) := by
    split
    · exact hfigures.positional point
    · exact hfigures.scientific _ point
  dsimp only
  split
  · exact .cons rfl hsize
  · exact hsize

end CardQuery

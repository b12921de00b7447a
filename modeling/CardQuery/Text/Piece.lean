import CardQuery.Text.LowerCase

/-!
# Text/Piece — pieces of a text

`isPiece needle hay` says that `needle` stands somewhere in `hay` without a gap
(`isPiece_iff`).
-/

namespace CardQuery.Text

/-- Whether one list stands in another without a gap. -/
def isPiece (needle : List Char) : List Char → Bool
  | [] => needle.isEmpty
  | c :: rest => needle.isPrefixOf (c :: rest) || isPiece needle rest

/-- **A piece of a text is what is left after cutting both ends off.** -/
theorem isPiece_iff {needle hay : List Char} :
    isPiece needle hay = true ↔ ∃ before after, hay = before ++ needle ++ after := by
  induction hay with
  | nil => cases needle <;> simp [isPiece]
  | cons c rest ih =>
    simp only [isPiece, Bool.or_eq_true, List.isPrefixOf_iff_prefix, ih]
    constructor
    · rintro (⟨after, h⟩ | ⟨before, after, h⟩)
      · exact ⟨[], after, by simpa using h.symm⟩
      · exact ⟨c :: before, after, by simp [h]⟩
    · rintro ⟨before, after, h⟩
      cases before with
      | nil => exact .inl ⟨after, by simpa using h.symm⟩
      | cons b before =>
        simp only [List.cons_append, List.cons.injEq] at h
        exact .inr ⟨before, after, h.2⟩

/-- The rest of a text after a word that it starts with. -/
def after? (word s : List Char) : Option (List Char) :=
  if word.isPrefixOf s then some (s.drop word.length) else none

/-- Whether one text stands in another. -/
def hasPiece (hay needle : String) : Bool := isPiece needle.toList hay.toList

end CardQuery.Text

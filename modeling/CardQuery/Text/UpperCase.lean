import CardQuery.Text.CaseTable

/-!
# Text/UpperCase — the upper-case form of a text

Each character raises on its own, to one letter or to a short sequence of them.
-/

namespace CardQuery.Text

/-- The sequence that a letter raises to, if the given list has one for it. -/
def sequenceIn : List (Nat × List Nat) → Nat → Option (List Nat)
  | [], _ => none
  | (d, cs) :: rest, c => if c < d then none else if c == d then some cs else sequenceIn rest c

/-- The upper-case form of one character. -/
def upperChar (c : Char) : List Char :=
  match sequenceIn upperSequences c.toNat with
  | some cs => cs.map Char.ofNat
  | none => [Char.ofNat (mapCase upperRuns c.toNat)]

/-- The upper-case form of a list of characters. -/
def upperChars (s : List Char) : List Char := s.flatMap upperChar

/-- The upper-case form of a text. -/
def upper (s : String) : String := String.ofList (upperChars s.toList)

@[simp] theorem toList_upper (s : String) : (upper s).toList = upperChars s.toList := by
  simp [upper]

/-- A text with its first character in upper case. -/
def capitalized (s : String) : String :=
  match s.toList with
  | [] => ""
  | c :: rest => String.ofList (upperChar c ++ rest)

end CardQuery.Text

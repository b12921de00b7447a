import CardQuery.Text.CaseTable

/-!
# Text/CaseClass — which characters a pattern holds for the same letter

A pattern that disregards case takes two characters for the same letter if they lower to the same
one, or to two of a short list of letters with a common capital (`s` and the long `ſ`, `σ` and the
final `ς`, `i` and the dotless `ı`).  `caseKey` names each class by one member; `caseVariants` lists
a class.
-/

namespace CardQuery.Text

/-- The lower-case letters with a common capital. -/
def sharedCapitals : List (List Nat) :=
  [[0x69, 0x131], [0x73, 0x17F], [0xB5, 0x3BC], [0x345, 0x3B9, 0x1FBE], [0x390, 0x1FD3],
    [0x3B0, 0x1FE3], [0x3B2, 0x3D0], [0x3B5, 0x3F5], [0x3B8, 0x3D1], [0x3BA, 0x3F0],
    [0x3C0, 0x3D6], [0x3C1, 0x3F1], [0x3C2, 0x3C3], [0x3C6, 0x3D5], [0x432, 0x1C80],
    [0x434, 0x1C81], [0x43E, 0x1C82], [0x441, 0x1C83], [0x442, 0x1C84, 0x1C85], [0x44A, 0x1C86],
    [0x463, 0x1C87], [0x1C88, 0xA64B], [0x1E61, 0x1E9B], [0xFB05, 0xFB06]]

/-- The lower-case letters of the class of a lower-case letter. -/
def lowerVariants (c : Nat) : List Nat := (sharedCapitals.find? (·.contains c)).getD [c]

/-- The member that names the class of a code point: its ASCII letter if it has one. -/
def caseKey (c : Nat) : Nat :=
  let d := lowerCode c
  if d < 0x80 then d else (lowerVariants d).headD d

/-- The code points that lower to `d`. -/
def loweredTo (d : Nat) : List Nat :=
  (if lowerCode d == d then [d] else []) ++ (if d == 0x69 then [0x130] else [])
    ++ lowerRuns.filterMap (·.source? d)

/-- The class of a code point. -/
def caseVariants (c : Nat) : List Nat := (lowerVariants (lowerCode c)).flatMap loweredTo

end CardQuery.Text

/-!
# Text/Spans — sets of characters, written as intervals of code points

A property of characters is kept as the increasing list of the closed intervals it holds on.
`Spans.contains` walks the list and stops at the first interval that starts beyond the code point.
-/

namespace CardQuery.Text

/-- An increasing list of closed intervals of code points. -/
abbrev Spans := List (Nat × Nat)

/-- Whether a code point lies in one of the intervals. -/
def Spans.contains : Spans → Nat → Bool
  | [], _ => false
  | (lo, hi) :: rest, c => if c < lo then false else c ≤ hi || Spans.contains rest c

end CardQuery.Text

import CardQuery.Regex.Matching
import CardQuery.Regex.Reader

/-!
# Regex/Pattern — patterns with their flags

A pattern is the source that a query holds between slashes and the flags after the second slash.
Letters match in either case whatever the flags say; `m` and `s` set the modes of their names, and
`i`, `g`, `u` and `y` change nothing in a search.

A `Pattern` carries the program it was compiled to, so only patterns that compile exist.
-/

namespace CardQuery

open Regex

namespace Regex

/-- What a pattern is compiled to. -/
structure Program where
  node : Node
  mode : Mode

/-- The letters that may follow a pattern. -/
def flagLetters : List Char := ['g', 'i', 'm', 's', 'u', 'y']

/-- The mode that flags ask for. -/
def modeOf (flags : List Char) : Mode := ⟨true, flags.contains 'm', flags.contains 's', false⟩

/-- The program of a pattern with flags. -/
def compile (source flags : String) : Except Refusal Program := do
  match flags.toList.find? (!flagLetters.contains ·) with
  | some flag => throw (.unknownFlag flag)
  | none =>
    let parsed ← read source
    return ⟨parsed.node, (modeOf flags.toList).apply parsed.mode⟩

end Regex

/-- A pattern that compiles. -/
structure Pattern where
  source : String
  flags : String
  program : Program
  compiled : compile source flags = .ok program

namespace Pattern

/-- Patterns agree as soon as their sources and flags do. -/
theorem ext {p q : Pattern} (hs : p.source = q.source) (hf : p.flags = q.flags) : p = q := by
  obtain ⟨s, f, a, ha⟩ := p
  obtain ⟨s', f', b, hb⟩ := q
  obtain rfl : s = s' := hs
  obtain rfl : f = f' := hf
  have h : (.ok a : Except Refusal Program) = .ok b := ha.symm.trans hb
  cases h
  rfl

instance : DecidableEq Pattern := fun p q =>
  if h : p.source = q.source ∧ p.flags = q.flags then .isTrue (ext h.1 h.2)
  else .isFalse fun e => h ⟨congrArg source e, congrArg flags e⟩

/-- The pattern with a source and flags. -/
def make (source flags : String) : Except Refusal Pattern :=
  match h : compile source flags with
  | .ok program => .ok ⟨source, flags, program, h⟩
  | .error e => .error e

/-- A way to make the pattern with a source and flags, which may do more than make it: it may look
among patterns that were made before. -/
abbrev Maker (m : Type → Type) := String → String → m (Except Refusal Pattern)

/-- Whether a pattern matches somewhere in a text. -/
def matchesIn (p : Pattern) (text : String) : Bool := p.program.node.find p.program.mode text.toList

/-- A pattern as a query writes it. -/
def text (p : Pattern) : String := "/" ++ p.source ++ "/" ++ p.flags

end Pattern

end CardQuery

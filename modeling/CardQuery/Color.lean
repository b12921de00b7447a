import CardQuery.Comparison
import CardQuery.Text.Blank
import CardQuery.Text.LowerCase
import CardQuery.Text.UpperCase

/-!
# Color — colors and sets of colors

There are five colors, always listed in the order white, blue, black, red, green.  Colorless is the
empty set: the letter `C` is understood where colors are read and is no color.

Colors are compared as sets (`ColorSet.compare`): `:` and `>=` ask for a superset, `<=` for a
subset, `<` and `>` for strict ones, and `=` and `!=` for the same set or another.

`ColorSet.read` takes what a person types: the name of a color or of a group of colors, or else any
letters, of which those of the five colors count and the rest are passed over.
-/

namespace CardQuery

/-- One of the five colors. -/
inductive Color where
  | white | blue | black | red | green
deriving DecidableEq, Repr

namespace Color

/-- The colors in their order. -/
def all : List Color := [white, blue, black, red, green]

/-- The letter of a color. -/
def letter : Color → Char
  | white => 'W'
  | blue => 'U'
  | black => 'B'
  | red => 'R'
  | green => 'G'

/-- The name of a color. -/
def name : Color → String
  | white => "white"
  | blue => "blue"
  | black => "black"
  | red => "red"
  | green => "green"

/-- The color of a letter. -/
def ofLetter? (c : Char) : Option Color := all.find? (·.letter == c)

/-- The color that a text names by its letter, in any case and with blanks around it. -/
def ofText? (s : String) : Option Color :=
  match (Text.upper (Text.trim s)).toList with
  | [c] => ofLetter? c
  | _ => none

end Color

/-- A set of colors. -/
structure ColorSet where
  white : Bool
  blue : Bool
  black : Bool
  red : Bool
  green : Bool
deriving DecidableEq, Repr

namespace ColorSet

/-- Whether a set holds a color. -/
def contains (s : ColorSet) : Color → Bool
  | .white => s.white
  | .blue => s.blue
  | .black => s.black
  | .red => s.red
  | .green => s.green

/-- The set of the colors with a property. -/
def ofPred (p : Color → Bool) : ColorSet := ⟨p .white, p .blue, p .black, p .red, p .green⟩

@[simp] theorem contains_ofPred (p : Color → Bool) (c : Color) : (ofPred p).contains c = p c := by
  cases c <;> rfl

/-- The empty set, which is colorless. -/
def empty : ColorSet := ofPred fun _ => false

/-- The set of some colors. -/
def ofList (cs : List Color) : ColorSet := ofPred cs.contains

/-- The colors of a set, in their order. -/
def toList (s : ColorSet) : List Color := Color.all.filter s.contains

/-- The number of colors in a set. -/
def size (s : ColorSet) : Nat := s.toList.length

/-- Whether the colors of one set are all in another. -/
def subset (a b : ColorSet) : Bool := Color.all.all fun c => !a.contains c || b.contains c

/-- The letters of a set, in the order of the colors. -/
def letters (s : ColorSet) : List Char := s.toList.map Color.letter

/-- A set in letters, `C` for the empty one. -/
def text (s : ColorSet) : String := if s = empty then "C" else String.ofList s.letters

/-- The relation of an operator between a card's colors and those of a query. -/
def compare (card query : ColorSet) : CompareOp → Bool
  | .colon | .ge => query.subset card
  | .eq => card = query
  | .ne => card ≠ query
  | .le => card.subset query
  | .lt => card.subset query && card ≠ query
  | .gt => query.subset card && card ≠ query

/-- The colors whose letters are among some characters. -/
def ofLetters (cs : List Char) : ColorSet := ofPred fun c => cs.contains c.letter

/-- The colors that texts name by their letters; other texts name no color. -/
def ofTexts (items : List String) : ColorSet := ofList (items.filterMap Color.ofText?)

/-! ## Names of groups -/

/-- A group of colors with a name of its own. -/
structure Group where
  /-- The letters of the group. -/
  letters : String
  /-- The name of the group. -/
  name : String
  /-- The letters in the order that goes with the name. -/
  canonical : String

/-- The groups of two and more colors. -/
def groups : List Group :=
  [⟨"WU", "Azorius", "WU"⟩, ⟨"WB", "Orzhov", "WB"⟩, ⟨"WR", "Boros", "WR"⟩,
    ⟨"WG", "Selesnya", "WG"⟩, ⟨"UB", "Dimir", "UB"⟩, ⟨"UR", "Izzet", "UR"⟩,
    ⟨"UG", "Simic", "UG"⟩, ⟨"BR", "Rakdos", "BR"⟩, ⟨"BG", "Golgari", "BG"⟩,
    ⟨"RG", "Gruul", "RG"⟩, ⟨"WUG", "Bant", "GWU"⟩, ⟨"WUB", "Esper", "WUB"⟩,
    ⟨"UBR", "Grixis", "UBR"⟩, ⟨"BRG", "Jund", "BRG"⟩, ⟨"WRG", "Naya", "RGW"⟩,
    ⟨"WBG", "Abzan", "WBG"⟩, ⟨"WUR", "Jeskai", "URW"⟩, ⟨"UBG", "Sultai", "BGU"⟩,
    ⟨"WBR", "Mardu", "RWB"⟩, ⟨"URG", "Temur", "GUR"⟩, ⟨"WUBR", "Non-Green", "WUBR"⟩,
    ⟨"WUBG", "Non-Red", "WUBG"⟩, ⟨"WURG", "Non-Black", "WURG"⟩,
    ⟨"WBRG", "Non-Blue", "WBRG"⟩, ⟨"UBRG", "Non-White", "UBRG"⟩,
    ⟨"WUBRG", "Five-Color", "WUBRG"⟩]

/-- The set of a group's colors. -/
def Group.colors (g : Group) : ColorSet := ofLetters g.letters.toList

/-- Further names in common use. -/
def nicknames : List (String × String) :=
  [("c", ""), ("colorless", ""), ("artifice", "WUBR"), ("growth", "WUBG"), ("altruism", "WURG"),
    ("aggression", "WBRG"), ("chaos", "UBRG"), ("fivecolor", "WUBRG")]

/-- Every name that stands for a set of colors, in lower case. -/
def names : List (String × ColorSet) :=
  Color.all.map (fun c => (c.name, ofList [c]))
    ++ groups.map (fun g => (Text.lower g.name, g.colors))
    ++ nicknames.map fun (name, letters) => (name, ofLetters letters.toList)

/-- The set that a name in lower case stands for. -/
def named? (s : String) : Option ColorSet := names.lookup s

/-- **The colors that a person typed.** -/
def read (s : String) : ColorSet :=
  let lowered := Text.lower (Text.trim s)
  match named? lowered with
  | some colors => colors
  | none => ofLetters (Text.upper lowered).toList

/-- The label of a set of colors: a group goes by its name and its letters. -/
def label (s : ColorSet) : String :=
  match s.toList with
  | [] => "Colorless"
  | [c] => Text.capitalized c.name
  | _ =>
    match groups.find? (·.colors = s) with
    | some g => g.name ++ " (" ++ g.canonical ++ ")"
    | none => s.text

end ColorSet

end CardQuery

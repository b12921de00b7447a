import CardQuery.Text.Blank
import CardQuery.Text.LowerCase

/-!
# Rarity — the rarities of cards

The six rarities in their order.  A query may write a rarity by its name or by the first letter of
its name, in any case.
-/

namespace CardQuery

/-- A rarity. -/
inductive Rarity where
  | common | uncommon | rare | mythic | special | bonus
deriving DecidableEq, Repr

namespace Rarity

/-- The rarities in their order. -/
def all : List Rarity := [common, uncommon, rare, mythic, special, bonus]

/-- The name of a rarity. -/
def name : Rarity → String
  | common => "common"
  | uncommon => "uncommon"
  | rare => "rare"
  | mythic => "mythic"
  | special => "special"
  | bonus => "bonus"

/-- The letter that a rarity may be written by. -/
def initial : Rarity → String
  | common => "c"
  | uncommon => "u"
  | rare => "r"
  | mythic => "m"
  | special => "s"
  | bonus => "b"

/-- The place of a rarity in the order. -/
def rank : Rarity → Nat
  | common => 0
  | uncommon => 1
  | rare => 2
  | mythic => 3
  | special => 4
  | bonus => 5

/-- The rarity of a name. -/
def ofName? (s : String) : Option Rarity := all.find? (·.name == s)

/-- The rarity that a person typed. -/
def read? (s : String) : Option Rarity :=
  let lowered := Text.lower (Text.trim s)
  all.find? fun r => r.name == lowered || r.initial == lowered

end Rarity

end CardQuery

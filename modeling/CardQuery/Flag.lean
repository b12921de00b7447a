/-!
# Flag — properties that a query may ask for

A flag is a property of a card, such as being legendary or having been printed before.  Each has a
name, some have two, and `Flag.table` says by what rule each name is decided.
-/

namespace CardQuery

/-- A mark that a card record carries. -/
inductive Mark where
  | reprint | reserved | promo | fullArt | digital
deriving DecidableEq, Repr

/-- The rule by which a property of cards is decided. -/
inductive Flag where
  /-- The record carries a mark. -/
  | marked (m : Mark)
  /-- The card comes in a finish. -/
  | finish (name : String)
  /-- The card has one of the layouts. -/
  | layout (names : List String)
  /-- The type line holds one of the words. -/
  | types (words : List String)
  /-- The card can lead a deck. -/
  | commander
  /-- The card is a creature without rules. -/
  | vanilla
  /-- The card has more than one color. -/
  | manyColors
  /-- The card has one color. -/
  | oneColor
  /-- The card has no color. -/
  | noColor
  /-- The mana cost has a symbol with two halves. -/
  | hybrid
  /-- The mana cost has a symbol that may be paid with life. -/
  | phyrexian
deriving DecidableEq, Repr

namespace Flag

/-- The names of the flags. -/
def table : List (String × Flag) :=
  [("reprint", .marked .reprint), ("reserved", .marked .reserved), ("promo", .marked .promo),
    ("full", .marked .fullArt), ("digital", .marked .digital),
    ("foil", .finish "foil"), ("nonfoil", .finish "nonfoil"), ("etched", .finish "etched"),
    ("split", .layout ["split"]), ("flip", .layout ["flip"]),
    ("transform", .layout ["transform"]), ("mdfc", .layout ["modal_dfc"]),
    ("dfc", .layout ["transform", "modal_dfc"]), ("meld", .layout ["meld"]),
    ("leveler", .layout ["leveler"]), ("saga", .layout ["saga"]),
    ("adventure", .layout ["adventure"]), ("battle", .layout ["battle"]),
    ("prototype", .layout ["prototype"]), ("commander", .commander),
    ("permanent",
      .types ["creature", "artifact", "enchantment", "land", "planeswalker", "battle"]),
    ("spell", .types ["instant", "sorcery"]), ("creature", .types ["creature"]),
    ("artifact", .types ["artifact"]), ("enchantment", .types ["enchantment"]),
    ("land", .types ["land"]), ("planeswalker", .types ["planeswalker"]),
    ("instant", .types ["instant"]), ("sorcery", .types ["sorcery"]),
    ("legendary", .types ["legendary"]), ("vanilla", .vanilla), ("multicolor", .manyColors),
    ("multicolored", .manyColors), ("colorless", .noColor), ("monocolored", .oneColor),
    ("hybrid", .hybrid), ("phyrexian", .phyrexian)]

/-- The flag of a name in lower case. -/
def named? (name : String) : Option Flag := table.lookup name

end Flag

end CardQuery

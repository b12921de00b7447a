/-!
# Recent — the entries used last

A `Recent` holds a bounded number of entries, the one that was used last first.  Using an entry puts
it first, and when there is no more room the entry that was not used for the longest time goes.
-/

namespace CardQuery

/-- Entries in the order of their last use, the latest first. -/
structure Recent (κ α : Type) where
  capacity : Nat
  entries : List (κ × α)

namespace Recent

variable {κ α : Type} [BEq κ]

/-- No entries. -/
def empty (capacity : Nat) : Recent κ α := ⟨capacity, []⟩

/-- The value of a key. -/
def get? (r : Recent κ α) (key : κ) : Option α := r.entries.lookup key

/-- The keys, the latest first. -/
def keys (r : Recent κ α) : List κ := r.entries.map (·.1)

/-- The entries after the use of one, which was there before or is new. -/
def use (r : Recent κ α) (key : κ) (value : α) : Recent κ α :=
  { r with entries := ((key, value) :: r.entries.filter (!·.1 == key)).take r.capacity }

/-- No entries any more. -/
def clear (r : Recent κ α) : Recent κ α := { r with entries := [] }

end Recent

end CardQuery

/-!
# Sorted lists

Lists are sorted by insertion. Where an order tells any two items apart, every way of sorting gives
the same list.
-/

namespace CodeSnapshot

variable {α : Type}

/-- Puts an item in front of the first one that it is not behind. -/
def insertBy (le : α → α → Bool) (item : α) : List α → List α
  | [] => [item]
  | first :: rest =>
    if le item first then item :: first :: rest else first :: insertBy le item rest

/-- The items of a list in order. -/
def sortedBy (le : α → α → Bool) (items : List α) : List α :=
  items.foldr (insertBy le) []

end CodeSnapshot

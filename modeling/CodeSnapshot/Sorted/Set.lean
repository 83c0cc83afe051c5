import CodeSnapshot.Sorted.Map

/-!
# Sorted sets

A set of strings that lists its members in ascending order, each once. It is the map from its
members to nothing.
-/

namespace CodeSnapshot

/-- A set of strings. -/
structure StringSet where
  map : StringMap Unit
  deriving DecidableEq, Inhabited

namespace StringSet

def empty : StringSet := ⟨.empty⟩

/-- The members in ascending order. -/
def toList (s : StringSet) : List String :=
  s.map.keys

instance : Repr StringSet := ⟨fun s => reprPrec s.toList⟩

def isEmpty (s : StringSet) : Bool :=
  s.map.isEmpty

def size (s : StringSet) : Nat :=
  s.map.size

def contains (s : StringSet) (x : String) : Bool :=
  s.map.contains x

instance : Membership String StringSet := ⟨fun s x => x ∈ s.toList⟩

instance (s : StringSet) (x : String) : Decidable (x ∈ s) :=
  inferInstanceAs (Decidable (x ∈ s.toList))

def insert (s : StringSet) (x : String) : StringSet :=
  ⟨s.map.insert x ()⟩

def erase (s : StringSet) (x : String) : StringSet :=
  ⟨s.map.erase x⟩

/-- The set with the members of a list added. -/
def insertAll (s : StringSet) (xs : List String) : StringSet :=
  xs.foldl insert s

def ofList (xs : List String) : StringSet :=
  empty.insertAll xs

end StringSet

/-- The map with a member added to the set of a key. -/
def StringMap.link (m : StringMap StringSet) (key member : String) : StringMap StringSet :=
  m.alter key fun members => (members.getD .empty).insert member

/-- The map with a key that may have no members. -/
def StringMap.linkAll (m : StringMap StringSet) (key : String) (members : List String) :
    StringMap StringSet :=
  m.alter key fun old => (old.getD .empty).insertAll members

/-- The set of a key; empty for an unknown key. -/
def StringMap.linked (m : StringMap StringSet) (key : String) : StringSet :=
  (m.get? key).getD .empty

end CodeSnapshot

/-!
# Bounded maps that forget what was not used

A map from paths to values that holds no more than a number of entries. They are listed by their
last use, the latest first; an entry that no longer fits is the one whose last use is the oldest.
-/

namespace CodeSnapshot

/-- Entries by their last use, the latest first. -/
structure Recent (α : Type) where
  capacity : Nat
  entries : List (String × α) := []
  deriving Repr

namespace Recent

variable {α : Type}

/-- An empty map; it has room for at least one entry. -/
def ofCapacity (capacity : Nat) : Recent α :=
  { capacity := max capacity 1 }

def size (r : Recent α) : Nat :=
  r.entries.length

def isEmpty (r : Recent α) : Bool :=
  r.entries.isEmpty

/-- The value of a path. Looking at it is no use of it. -/
def get? (r : Recent α) (path : String) : Option α :=
  (r.entries.find? (·.1 == path)).map (·.2)

def contains (r : Recent α) (path : String) : Bool :=
  (r.get? path).isSome

/-- The map without a path. -/
def erase (r : Recent α) (path : String) : Recent α :=
  { r with entries := r.entries.filter (·.1 != path) }

/-- Uses an entry, if there is one. -/
def touch (r : Recent α) (path : String) : Recent α :=
  match r.get? path with
  | some a => { r with entries := (path, a) :: (r.erase path).entries }
  | none => r

/-- Gives a path a value, which is a use. Of the other entries those stay that fit. -/
def put (r : Recent α) (path : String) (a : α) : Recent α :=
  { r with entries := (path, a) :: (r.erase path).entries.take (r.capacity - 1) }

@[simp] theorem capacity_erase (r : Recent α) (path : String) :
    (r.erase path).capacity = r.capacity := rfl

@[simp] theorem capacity_put (r : Recent α) (path : String) (a : α) :
    (r.put path a).capacity = r.capacity := rfl

@[simp] theorem capacity_touch (r : Recent α) (path : String) :
    (r.touch path).capacity = r.capacity := by
  unfold touch; split <;> rfl

@[simp] theorem get?_put_self (r : Recent α) (path : String) (a : α) :
    (r.put path a).get? path = some a := by
  simp [put, get?]

end Recent

end CodeSnapshot

/-!
# Maps with sorted keys

A map from strings that lists its entries by key, each key once. The order is part of the type, so
two maps with the same entries are equal, and whatever is printed from a map comes out sorted.
-/

namespace CodeSnapshot

/-- Entries in ascending order of their keys. -/
structure StringMap (β : Type) where
  entries : List (String × β)
  ascending : entries.Pairwise (fun a b => a.1 < b.1) := by exact .nil

namespace StringMap

variable {β : Type}

instance : Inhabited (StringMap β) := ⟨{ entries := [] }⟩

instance [Repr β] : Repr (StringMap β) := ⟨fun m => reprPrec m.entries⟩

theorem ext {m n : StringMap β} (h : m.entries = n.entries) : m = n := by
  cases m; cases n; simp_all

instance [DecidableEq β] : DecidableEq (StringMap β) := fun m n =>
  decidable_of_iff (m.entries = n.entries) ⟨ext, fun h => h ▸ rfl⟩

def empty : StringMap β := { entries := [] }

def isEmpty (m : StringMap β) : Bool :=
  m.entries.isEmpty

def keys (m : StringMap β) : List String :=
  m.entries.map (·.1)

def size (m : StringMap β) : Nat :=
  m.entries.length

def get? (m : StringMap β) (key : String) : Option β :=
  (m.entries.find? (·.1 == key)).map (·.2)

def contains (m : StringMap β) (key : String) : Bool :=
  (m.get? key).isSome

/-- Replaces the value of a key by `change` of what it was, at the key's place. -/
def alterEntries (key : String) (change : Option β → β) : List (String × β) → List (String × β)
  | [] => [(key, change none)]
  | (k, v) :: rest =>
    if key < k then (key, change none) :: (k, v) :: rest
    else if key = k then (key, change (some v)) :: rest
    else (k, v) :: alterEntries key change rest

theorem mem_alterEntries {key : String} {change : Option β → β} {entries : List (String × β)}
    {e : String × β} (h : e ∈ alterEntries key change entries) : e.1 = key ∨ e ∈ entries := by
  induction entries with
  | nil => simp [alterEntries] at h; exact .inl (h ▸ rfl)
  | cons head rest ih =>
    simp only [alterEntries] at h
    split at h
    · rcases List.mem_cons.1 h with rfl | h
      · exact .inl rfl
      · exact .inr h
    · split at h
      · rcases List.mem_cons.1 h with rfl | h
        · exact .inl rfl
        · exact .inr (List.mem_cons_of_mem _ h)
      · rcases List.mem_cons.1 h with rfl | h
        · exact .inr (List.mem_cons_self ..)
        · rcases ih h with h | h
          · exact .inl h
          · exact .inr (List.mem_cons_of_mem _ h)

theorem ascending_alterEntries (key : String) (change : Option β → β)
    {entries : List (String × β)} (h : entries.Pairwise (fun a b => a.1 < b.1)) :
    (alterEntries key change entries).Pairwise (fun a b => a.1 < b.1) := by
  induction entries with
  | nil => simp [alterEntries]
  | cons head rest ih =>
    obtain ⟨hhead, hrest⟩ := List.pairwise_cons.1 h
    simp only [alterEntries]
    split
    · rename_i hlt
      refine List.pairwise_cons.2 ⟨fun e he => ?_, h⟩
      rcases List.mem_cons.1 he with rfl | he
      · exact hlt
      · exact String.lt_trans hlt (hhead e he)
    · rename_i hnlt
      split
      · rename_i heq
        exact List.pairwise_cons.2 ⟨fun e he => heq ▸ hhead e he, hrest⟩
      · rename_i hne
        refine List.pairwise_cons.2 ⟨fun e he => ?_, ih hrest⟩
        rcases mem_alterEntries he with h' | h'
        · rw [h']
          rcases Std.lt_trichotomy key head.1 with h'' | h'' | h''
          · exact absurd h'' hnlt
          · exact absurd h'' hne
          · exact h''
        · exact hhead e h'

/-- Replaces the value of a key by `change` of what it was. -/
def alter (m : StringMap β) (key : String) (change : Option β → β) : StringMap β where
  entries := alterEntries key change m.entries
  ascending := ascending_alterEntries key change m.ascending

def insert (m : StringMap β) (key : String) (value : β) : StringMap β :=
  m.alter key fun _ => value

/-- The map without a key. -/
def erase (m : StringMap β) (key : String) : StringMap β where
  entries := m.entries.filter (·.1 != key)
  ascending := m.ascending.sublist List.filter_sublist

/-- The entries of a list; of several with one key the last one stays. -/
def ofList (entries : List (String × β)) : StringMap β :=
  entries.foldl (fun m e => m.insert e.1 e.2) empty

@[simp] theorem entries_empty : (empty : StringMap β).entries = [] := rfl

theorem eq_empty_of_isEmpty {m : StringMap β} (h : m.isEmpty = true) : m = empty :=
  ext (List.isEmpty_iff.1 h)

end StringMap

end CodeSnapshot

import CodeSnapshot.Sorted.Map

/-!
# Lookup in sorted maps

What a map says of a key after a change of one key:

* **`get?_alter`** — the changed key has its new value, and every other key keeps its own.
* **`mem_entries_iff`** — the entries are what is looked up.
* **`mem_keys_iff`** — the keys are those that have a value; `mem_keys_insert` follows.
-/

namespace CodeSnapshot.StringMap

variable {β : Type} {key other : String}

/-! ## The entries -/

theorem find?_alterEntries_ne (change : Option β → β) (h : other ≠ key)
    (entries : List (String × β)) :
    (alterEntries key change entries).find? (·.1 == other) = entries.find? (·.1 == other) := by
  have hne : (key == other) = false := by simpa using h.symm
  induction entries with
  | nil => simp [alterEntries, hne]
  | cons head rest ih =>
    rw [alterEntries]
    split
    · rw [List.find?_cons, hne]
    · split
      · rename_i heq
        rw [List.find?_cons, List.find?_cons, ← heq, hne]
      · rw [List.find?_cons, List.find?_cons, ih]

/-- The changed key has its new value. The order is used where the key is put before a greater one:
none of the entries behind can have the key. -/
theorem find?_alterEntries_self (change : Option β → β) {entries : List (String × β)}
    (h : entries.Pairwise (fun a b => a.1 < b.1)) :
    (alterEntries key change entries).find? (·.1 == key) =
      some (key, change ((entries.find? (·.1 == key)).map (·.2))) := by
  induction entries with
  | nil => simp [alterEntries]
  | cons head rest ih =>
    obtain ⟨hhead, hrest⟩ := List.pairwise_cons.1 h
    rw [alterEntries]
    split
    · rename_i hlt
      have hnone : (head :: rest).find? (·.1 == key) = none := by
        rw [List.find?_eq_none]
        intro e he hkey
        have hlt' : key < e.1 := by
          rcases List.mem_cons.1 he with rfl | he
          · exact hlt
          · exact String.lt_trans hlt (hhead e he)
        rw [beq_iff_eq.1 hkey] at hlt'
        exact String.lt_irrefl key hlt'
      rw [hnone, List.find?_cons, beq_self_eq_true]
      rfl
    · split
      · rename_i heq
        rw [List.find?_cons, List.find?_cons, ← heq, beq_self_eq_true]
        rfl
      · rename_i hne
        have hne' : (head.1 == key) = false := by simpa using Ne.symm hne
        rw [List.find?_cons, List.find?_cons, hne']
        exact ih hrest

/-! ## The map -/

theorem get?_alter_self (m : StringMap β) (key : String) (change : Option β → β) :
    (m.alter key change).get? key = some (change (m.get? key)) := by
  rw [get?, alter, find?_alterEntries_self change m.ascending]
  rfl

theorem get?_alter_ne (m : StringMap β) (change : Option β → β) (h : other ≠ key) :
    (m.alter key change).get? other = m.get? other := by
  rw [get?, alter, find?_alterEntries_ne change h]
  rfl

theorem get?_insert_self (m : StringMap β) (key : String) (v : β) :
    (m.insert key v).get? key = some v :=
  get?_alter_self m key _

theorem get?_insert_ne (m : StringMap β) (v : β) (h : other ≠ key) :
    (m.insert key v).get? other = m.get? other :=
  get?_alter_ne m _ h

/-- An entry is the one that its key is looked up by, for all other keys are smaller or greater. -/
theorem mem_entries_iff {m : StringMap β} {v : β} :
    (key, v) ∈ m.entries ↔ m.get? key = some v := by
  have hpair := m.ascending
  rw [get?, Option.map_eq_some_iff]
  generalize m.entries = entries at hpair
  constructor
  · intro hmem
    refine ⟨(key, v), ?_, rfl⟩
    induction entries with
    | nil => cases hmem
    | cons head rest ih =>
      obtain ⟨hhead, hpair⟩ := List.pairwise_cons.1 hpair
      rcases List.mem_cons.1 hmem with rfl | hmem
      · simp
      · have hne : (head.1 == key) = false :=
          beq_false_of_ne fun heq => String.ne_of_lt (hhead (key, v) hmem) heq
        rw [List.find?_cons, hne]
        exact ih hpair hmem
  · rintro ⟨e, hfind, rfl⟩
    have hkey := List.find?_some hfind
    rw [← beq_iff_eq.1 hkey]
    exact List.mem_of_find?_eq_some hfind

theorem mem_keys_iff {m : StringMap β} : key ∈ m.keys ↔ (m.get? key).isSome := by
  simp [keys, get?, List.find?_isSome]

theorem mem_keys_insert {m : StringMap β} {v : β} :
    other ∈ (m.insert key v).keys ↔ other = key ∨ other ∈ m.keys := by
  rw [mem_keys_iff, mem_keys_iff]
  by_cases h : other = key
  · rw [h, get?_insert_self]
    simp
  · rw [get?_insert_ne m v h]
    simp [h]

end CodeSnapshot.StringMap

import CodeSnapshot.Cache.Recent

/-!
# Recent entries — what using, adding and removing an entry does to the others

The order of the entries tells only which one goes first. What is kept under a path changes when the
path is given a value or removed, and otherwise when the entry no longer fits.

* **`get?_touch`**, **`get?_erase`**, **`get?_of_get?_put`** — a lookup after each operation.
* **`Distinct`** — every path has one entry; `perm_touch` says that a use loses and adds none.
-/

namespace CodeSnapshot.Recent

variable {α : Type} {r : Recent α} {path other : String} {a b : α}

theorem find?_filter_ne (h : other ≠ path) (entries : List (String × α)) :
    (entries.filter (·.1 != path)).find? (·.1 == other) = entries.find? (·.1 == other) := by
  rw [List.find?_filter]
  congr 1
  funext e
  by_cases he : e.1 = other
  · simp [he, h]
  · simp [he]

theorem find?_cons_ne (h : other ≠ path) (entries : List (String × α)) :
    ((path, a) :: entries).find? (·.1 == other) = entries.find? (·.1 == other) :=
  List.find?_cons_of_neg (by simpa using Ne.symm h)

theorem get?_erase (r : Recent α) (path other : String) :
    (r.erase path).get? other = if other = path then none else r.get? other := by
  rw [get?, erase]
  split
  · rename_i h
    subst h
    have hnone : (r.entries.filter (·.1 != other)).find? (·.1 == other) = none := by
      simp [List.find?_eq_none]
    rw [hnone]
    rfl
  · rename_i h
    rw [find?_filter_ne h]
    rfl

theorem get?_touch (r : Recent α) (path other : String) :
    (r.touch path).get? other = r.get? other := by
  rw [touch]
  split
  · rename_i a ha
    by_cases h : other = path
    · subst h
      rw [ha, get?, List.find?_cons_of_pos (by simp)]
      rfl
    · rw [get?, find?_cons_ne h, erase, find?_filter_ne h]
      rfl
  · rfl

theorem contains_erase (r : Recent α) (path other : String) :
    (r.erase path).contains other = (other != path && r.contains other) := by
  rw [contains, get?_erase]
  by_cases h : other = path
  · rw [if_pos h, h, bne_self_eq_false, Bool.false_and]
    rfl
  · rw [if_neg h, bne_iff_ne.2 h, Bool.true_and]
    rfl

theorem contains_touch (r : Recent α) (path other : String) :
    (r.touch path).contains other = r.contains other := by
  rw [contains, get?_touch]
  rfl

/-- What is kept besides a new value was kept before. -/
theorem get?_of_get?_put (h : (r.put path a).get? other = some b) (hne : other ≠ path) :
    r.get? other = some b := by
  rw [put, get?, find?_cons_ne hne, Option.map_eq_some_iff] at h
  obtain ⟨e, he, rfl⟩ := h
  have hfit := (List.take_prefix (r.capacity - 1) (r.erase path).entries).find?_eq_some he
  rw [erase, find?_filter_ne hne] at hfit
  rw [get?, hfit]
  rfl

/-! ## One entry for each path -/

/-- No path has two entries. -/
def Distinct (r : Recent α) : Prop :=
  (r.entries.map (·.1)).Nodup

theorem distinct_ofCapacity (capacity : Nat) : (ofCapacity capacity : Recent α).Distinct :=
  List.nodup_nil

theorem distinct_cons {entries : List (String × α)} (hsub : entries.Sublist (r.erase path).entries)
    (h : r.Distinct) : (((path, a) :: entries).map (·.1)).Nodup := by
  rw [List.map_cons, List.nodup_cons]
  constructor
  · intro hmem
    obtain ⟨e, he, heq⟩ := List.mem_map.1 hmem
    have hother := (List.mem_filter.1 (hsub.mem he)).2
    rw [heq] at hother
    simp at hother
  · exact h.sublist ((hsub.trans List.filter_sublist).map _)

theorem Distinct.erase (h : r.Distinct) (path : String) : (r.erase path).Distinct :=
  h.sublist (List.filter_sublist.map _)

theorem Distinct.put (h : r.Distinct) (path : String) (a : α) : (r.put path a).Distinct :=
  distinct_cons (List.take_sublist ..) h

theorem Distinct.touch (h : r.Distinct) (path : String) : (r.touch path).Distinct := by
  rw [Recent.touch]
  split
  · exact distinct_cons (List.Sublist.refl _) h
  · exact h

/-- An entry that is found can be taken out and put in front. -/
theorem perm_cons_filter {entries : List (String × α)} (hnodup : (entries.map (·.1)).Nodup)
    {e : String × α} (he : entries.find? (·.1 == path) = some e) :
    (e :: entries.filter (·.1 != path)).Perm entries := by
  induction entries with
  | nil => cases he
  | cons first entries ih =>
    obtain ⟨hfirst, hnodup⟩ := List.nodup_cons.1 hnodup
    by_cases h : first.1 = path
    · -- no entry behind the first one has its path
      rw [List.find?_cons_of_pos (by simpa using h)] at he
      obtain rfl := Option.some.inj he
      have hrest : entries.filter (·.1 != path) = entries := by
        refine List.filter_eq_self.2 fun e he => ?_
        have hne : e.1 ≠ path := fun heq =>
          hfirst (List.mem_map.2 ⟨e, he, heq.trans h.symm⟩)
        simpa using hne
      rw [List.filter_cons_of_neg (by simpa using h), hrest]
    · rw [List.find?_cons_of_neg (by simpa using h)] at he
      rw [List.filter_cons_of_pos (by simpa using h)]
      exact (List.Perm.swap ..).trans ((ih hnodup he).cons first)

/-- **A use** changes the order of the entries at most. -/
theorem perm_touch (h : r.Distinct) (path : String) :
    (r.touch path).entries.Perm r.entries := by
  rw [touch]
  split
  · rename_i a ha
    obtain ⟨⟨key, a⟩, he, rfl⟩ := Option.map_eq_some_iff.1 ha
    have hkey : key = path := by simpa using List.find?_some he
    subst hkey
    exact perm_cons_filter h he
  · exact .refl _

end CodeSnapshot.Recent

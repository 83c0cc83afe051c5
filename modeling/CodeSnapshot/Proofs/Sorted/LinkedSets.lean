import CodeSnapshot.Proofs.Sorted.SetMembers

/-!
# Maps of sets as relations

A map of sets relates a key to the members of its set. Adding a member to the set of a key adds one
pair to the relation, and a map without empty sets is nothing but its relation.

* **`ext_get?`**, **`StringSet.ext_mem`** — maps with the same lookups, and sets with the same
  members, are equal.
* **`mem_linked_link`**, **`mem_linked_linkPairs`** — the relation after one more pair, and after
  many.
* **`linkPairs_of_mem`** — pairs that are there already change nothing, not even the map.
* **`foldl_linkAll_entries`** — the entries of a map, added to the empty map, give the map back.
* **`Filled`** — no key has an empty set; `Filled.ext` is the extensionality of such maps.
-/

namespace CodeSnapshot

namespace StringMap

variable {β : Type} {key other : String}

theorem nodup_entries (m : StringMap β) : m.entries.Nodup := by
  refine m.ascending.imp fun hlt heq => ?_
  rw [heq] at hlt
  exact String.lt_irrefl _ hlt

/-- **Maps with the same lookups** are equal, for their entries stand in the same order. -/
theorem ext_get? {m n : StringMap β} (h : ∀ key, m.get? key = n.get? key) : m = n := by
  have hperm : m.entries.Perm n.entries := by
    refine (List.perm_ext_iff_of_nodup m.nodup_entries n.nodup_entries).2 fun (key, v) => ?_
    rw [mem_entries_iff, mem_entries_iff, h]
  refine StringMap.ext (hperm.eq_of_pairwise ?_ m.ascending n.ascending)
  intro a b _ _ hlt hgt
  exact absurd (String.lt_trans hlt hgt) (String.lt_irrefl _)

end StringMap

/-- **Sets with the same members** are equal. -/
theorem StringSet.ext_mem {s t : StringSet} (h : ∀ x, x ∈ s ↔ x ∈ t) : s = t := by
  have hmap : s.map = t.map := by
    -- a set is the map from its members to nothing
    have hunit (value : Option Unit) : value = some () ↔ value.isSome = true := by
      cases value <;> simp
    refine StringMap.ext_get? fun key => Option.ext fun _ => ?_
    rw [hunit, hunit, ← StringMap.mem_keys_iff, ← StringMap.mem_keys_iff]
    exact h key
  cases s
  cases t
  exact congrArg StringSet.mk hmap

theorem StringSet.ofList_toList (s : StringSet) : ofList s.toList = s :=
  ext_mem fun _ => mem_ofList

namespace StringMap

variable {m n : StringMap StringSet} {key other x y : String} {pairs : List (String × String)}

/-! ## One more pair -/

theorem exists_get?_of_mem_linked (h : x ∈ m.linked key) :
    ∃ members, m.get? key = some members ∧ x ∈ members := by
  rw [linked] at h
  cases hget : m.get? key with
  | none =>
    rw [hget] at h
    exact absurd h StringSet.not_mem_empty
  | some members =>
    rw [hget] at h
    exact ⟨members, rfl, h⟩

theorem mem_linked_of_get? {members : StringSet} (h : m.get? key = some members) :
    x ∈ m.linked key ↔ x ∈ members := by
  rw [linked, h]
  rfl

theorem AllNames.linked {P : String → Prop} (h : m.AllNames P) (hx : x ∈ m.linked key) : P x := by
  obtain ⟨members, hget, hmem⟩ := exists_get?_of_mem_linked hx
  exact h.member key members hget x hmem

theorem get?_link_self (m : StringMap StringSet) (key x : String) :
    (m.link key x).get? key = some (((m.get? key).getD .empty).insert x) :=
  get?_alter_self ..

theorem get?_link_ne (m : StringMap StringSet) (x : String) (h : other ≠ key) :
    (m.link key x).get? other = m.get? other :=
  get?_alter_ne m _ h

/-- **One more pair** in the relation. -/
theorem mem_linked_link :
    y ∈ (m.link key x).linked other ↔ other = key ∧ y = x ∨ y ∈ m.linked other := by
  by_cases hother : other = key
  · subst hother
    rw [mem_linked_of_get? (get?_link_self ..), StringSet.mem_insert]
    simp only [true_and]
    rfl
  · rw [linked, get?_link_ne m x hother]
    simp only [hother, false_and, false_or]
    rfl

/-- A pair that is there already. -/
theorem link_of_mem (h : x ∈ m.linked key) : m.link key x = m := by
  obtain ⟨members, hget, hx⟩ := exists_get?_of_mem_linked h
  have hinsert : members.insert x = members :=
    StringSet.ext_mem fun y => StringSet.mem_insert.trans (or_iff_right_of_imp fun heq => heq ▸ hx)
  refine ext_get? fun other => ?_
  by_cases hother : other = key
  · subst hother
    rw [get?_link_self, hget]
    exact congrArg some hinsert
  · rw [get?_link_ne m x hother]

/-! ## Many pairs -/

/-- The map with some pairs added. -/
def linkPairs (m : StringMap StringSet) (pairs : List (String × String)) : StringMap StringSet :=
  pairs.foldl (fun m e => m.link e.1 e.2) m

theorem mem_linked_linkPairs :
    y ∈ (m.linkPairs pairs).linked x ↔ (x, y) ∈ pairs ∨ y ∈ m.linked x := by
  induction pairs generalizing m with
  | nil => simp [linkPairs]
  | cons e pairs ih =>
    show y ∈ ((m.link e.1 e.2).linkPairs pairs).linked x ↔ _
    rw [ih, mem_linked_link, List.mem_cons, Prod.ext_iff, or_left_comm, or_assoc]

theorem linkPairs_of_mem (h : ∀ e ∈ pairs, e.2 ∈ m.linked e.1) : m.linkPairs pairs = m := by
  induction pairs with
  | nil => rfl
  | cons e pairs ih =>
    obtain ⟨he, hpairs⟩ := List.forall_mem_cons.1 h
    show (m.link e.1 e.2).linkPairs pairs = m
    rw [link_of_mem he, ih hpairs]

theorem isSome_get?_linkPairs (h : ((m.linkPairs pairs).get? key).isSome) :
    (m.get? key).isSome ∨ ∃ x, (key, x) ∈ pairs := by
  induction pairs generalizing m with
  | nil => exact .inl h
  | cons e pairs ih =>
    rcases ih (m := m.link e.1 e.2) h with hold | ⟨x, hx⟩
    · by_cases hkey : key = e.1
      · exact .inr ⟨e.2, by rw [hkey]; exact List.mem_cons_self ..⟩
      · rw [get?_link_ne m e.2 hkey] at hold
        exact .inl hold
    · exact .inr ⟨x, List.mem_cons_of_mem e hx⟩

theorem AllNames.linkPairs {P : String → Prop} (h : m.AllNames P)
    (hpairs : ∀ e ∈ pairs, P e.1 ∧ P e.2) : (m.linkPairs pairs).AllNames P :=
  List.foldlRecOn pairs _ h fun _ hn e he => hn.link (hpairs e he).1 (hpairs e he).2

/-! ## Whole sets -/

/-- Entries with new keys are added as they are. -/
theorem get?_foldl_linkAll {entries : List (String × StringSet)}
    (hdistinct : entries.Pairwise fun a b => a.1 < b.1) {m : StringMap StringSet}
    (hnew : ∀ e ∈ entries, m.get? e.1 = none) {key : String} {members : StringSet} :
    (entries.foldl (fun m e => m.linkAll e.1 e.2.toList) m).get? key = some members ↔
      (key, members) ∈ entries ∨ m.get? key = some members := by
  induction entries generalizing m with
  | nil => simp
  | cons e entries ih =>
    obtain ⟨hhead, hdistinct⟩ := List.pairwise_cons.1 hdistinct
    obtain ⟨hfresh, hnew⟩ := List.forall_mem_cons.1 hnew
    have hself : (m.linkAll e.1 e.2.toList).get? e.1 = some e.2 := by
      rw [linkAll, get?_alter_self, hfresh]
      exact congrArg some (StringSet.ofList_toList e.2)
    have hother {other : String} (hne : other ≠ e.1) :
        (m.linkAll e.1 e.2.toList).get? other = m.get? other := get?_alter_ne m _ hne
    have hrest : ∀ e' ∈ entries, (m.linkAll e.1 e.2.toList).get? e'.1 = none := by
      intro e' he'
      rw [hother (String.ne_of_lt (hhead e' he')).symm, hnew e' he']
    rw [List.foldl_cons, ih hdistinct hrest, List.mem_cons]
    by_cases hkey : key = e.1
    · subst hkey
      have hnotin : (e.1, members) ∉ entries := by
        intro hmem
        have hlt := hhead (e.1, members) hmem
        exact String.lt_irrefl e.1 hlt
      rw [hself, hfresh]
      simp [hnotin, Prod.ext_iff, eq_comm]
    · rw [hother hkey]
      simp [Prod.ext_iff, hkey]

/-- **The entries of a map** say all of it. -/
theorem foldl_linkAll_entries (m : StringMap StringSet) :
    m.entries.foldl (fun n e => n.linkAll e.1 e.2.toList) empty = m := by
  refine ext_get? fun key => Option.ext fun members => ?_
  rw [get?_foldl_linkAll m.ascending fun _ _ => rfl, mem_entries_iff]
  exact or_iff_left (by nofun)

/-! ## Maps without empty sets -/

/-- Every key has a member. -/
def Filled (m : StringMap StringSet) : Prop :=
  ∀ key members, m.get? key = some members → ∃ x, x ∈ members

theorem filled_empty : Filled empty := nofun

theorem Filled.link (h : m.Filled) (key x : String) : (m.link key x).Filled := by
  intro other members hget
  by_cases hother : other = key
  · subst hother
    rw [get?_link_self] at hget
    obtain rfl := Option.some.inj hget
    exact ⟨x, StringSet.mem_insert.2 (.inl rfl)⟩
  · rw [get?_link_ne m x hother] at hget
    exact h other members hget

theorem Filled.linkPairs (h : m.Filled) (pairs : List (String × String)) :
    (m.linkPairs pairs).Filled := by
  induction pairs generalizing m with
  | nil => exact h
  | cons e pairs ih => exact ih (h.link e.1 e.2)

/-- **Maps with the same pairs** are equal, if neither of them has an empty set. -/
theorem Filled.ext (hm : m.Filled) (hn : n.Filled)
    (h : ∀ key x, x ∈ m.linked key ↔ x ∈ n.linked key) : m = n := by
  have hkeys {m n : StringMap StringSet} (hm : m.Filled)
      (h : ∀ key x, x ∈ m.linked key ↔ x ∈ n.linked key) (key : String) (members : StringSet)
      (hget : m.get? key = some members) : n.get? key = some members := by
    obtain ⟨x, hx⟩ := hm key members hget
    obtain ⟨others, hothers, -⟩ :=
      exists_get?_of_mem_linked ((h key x).1 ((mem_linked_of_get? hget).2 hx))
    rw [hothers]
    refine congrArg some (StringSet.ext_mem fun y => ?_)
    rw [← mem_linked_of_get? hothers, ← mem_linked_of_get? hget, h]
  refine ext_get? fun key => Option.ext fun members => ⟨hkeys hm h key members, ?_⟩
  exact hkeys hn (fun key x => (h key x).symm) key members

end StringMap

end CodeSnapshot

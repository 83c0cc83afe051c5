import CodeSnapshot.Proofs.Cache.RecentEntries

/-!
# Order of use — which entry of a bounded map has to go

The entries are listed by their last use, so the one that no longer fits is the last of the list. It
is the one whose use is the oldest as long as the list is in the order of the uses.

* **`keys_touch`**, **`keys_erase`** — the paths after a use and after a removal.
* **`keys_put_of_fits`**, **`keys_put_of_full`** — a new value takes no other entry's place if its
  path has one, or if there is room; else the last entry goes.
* **`ListedBy`** — the order, by the time of each path's last use; `ListedBy.use` is the step that
  keeps it, `ListedBy.oldest` says whose the last entry is.
* **`InOrder`** — a bounded map in that order, kept by every operation;
  `InOrder.contains_put_of_fits` and `InOrder.exists_victim` say what a new value does to the
  others.
-/

namespace CodeSnapshot.Recent

variable {α : Type} {r r' : Recent α} {path other : String} {a : α}

/-- The paths of the entries, the one that was used last first. -/
def keys (r : Recent α) : List String :=
  r.entries.map (·.1)

theorem length_keys (r : Recent α) : r.keys.length = r.size :=
  List.length_map ..

theorem mem_keys_iff : path ∈ r.keys ↔ r.contains path = true := by
  simp [keys, contains, get?, List.find?_isSome]

/-! ## The paths after each operation -/

theorem keys_erase (r : Recent α) (path : String) :
    (r.erase path).keys = r.keys.filter (· != path) := by
  rw [keys, erase, keys, List.filter_map]
  rfl

theorem keys_touch (h : path ∈ r.keys) :
    (r.touch path).keys = path :: r.keys.filter (· != path) := by
  obtain ⟨a, ha⟩ := Option.isSome_iff_exists.1 (mem_keys_iff.1 h)
  rw [touch, ha, ← keys_erase]
  rfl

theorem keys_put (r : Recent α) (path : String) (a : α) :
    (r.put path a).keys = path :: (r.keys.filter (· != path)).take (r.capacity - 1) := by
  rw [← keys_erase, keys, keys, put, List.map_cons, List.map_take]

/-- A value that is given right after a use is given once. -/
theorem put_touch (r : Recent α) (path : String) (a : α) :
    (r.touch path).put path a = r.put path a := by
  rw [touch]
  split
  · have hagain : (r.entries.filter (·.1 != path)).filter (·.1 != path) =
        r.entries.filter (·.1 != path) := by
      rw [List.filter_filter]
      simp only [Bool.and_self]
    simp only [put, erase, List.filter_cons, bne_self_eq_false, Bool.false_eq_true, if_false,
      hagain]
  · rfl

theorem filter_keys_of_not_mem (h : path ∉ r.keys) : r.keys.filter (· != path) = r.keys := by
  refine List.filter_eq_self.2 fun other hother => ?_
  have hne : other ≠ path := fun heq => h (heq ▸ hother)
  simpa using hne

/-- **A value for a path that has an entry, or with room for one more**, takes no other entry's
place. -/
theorem keys_put_of_fits (hfits : r.size ≤ r.capacity)
    (h : path ∈ r.keys ∨ r.size < r.capacity) :
    (r.put path a).keys = path :: r.keys.filter (· != path) := by
  rw [keys_put, List.take_of_length_le]
  rw [← length_keys] at hfits h
  by_cases hmem : path ∈ r.keys
  · -- the path's own entry makes room
    have hless : (r.keys.filter (· != path)).length < r.keys.length :=
      List.length_filter_lt_length_iff_exists.2 ⟨path, hmem, by simp⟩
    omega
  · have hroom := h.resolve_left hmem
    rw [filter_keys_of_not_mem hmem]
    omega

/-- **A value for another path in a full map** takes the place of the last entry. -/
theorem keys_put_of_full (hnew : path ∉ r.keys) (hfull : r.size = r.capacity) :
    (r.put path a).keys = path :: r.keys.dropLast := by
  rw [keys_put, filter_keys_of_not_mem hnew, ← hfull, ← length_keys, List.dropLast_eq_take]

/-! ## The order of the entries -/

/-- Every path was used, and the paths are listed by the times of their last uses, the latest
first. -/
structure ListedBy (last : String → Option Nat) (r : Recent α) : Prop where
  used : ∀ path ∈ r.keys, (last path).isSome = true
  latestFirst : r.keys.Pairwise fun newer older => last older < last newer

namespace ListedBy

variable {last last' : String → Option Nat} {now : Nat}

theorem distinct (h : r.ListedBy last) : r.Distinct := by
  refine h.latestFirst.imp_of_mem fun {newer older} hnewer _ hlt heq => ?_
  obtain ⟨n, hn⟩ := Option.isSome_iff_exists.1 (h.used newer hnewer)
  rw [← heq, hn, Option.some_lt_some] at hlt
  exact Nat.lt_irrefl n hlt

theorem sublist (h : r.ListedBy last) (hsub : r'.keys.Sublist r.keys) : r'.ListedBy last :=
  ⟨fun path hpath => h.used path (hsub.mem hpath), h.latestFirst.sublist hsub⟩

/-- **A use** that is later than all before, and after which the path stands in front. -/
theorem use {rest : List String} (h : r.ListedBy last)
    (hlast : ∀ other, last' other = if other = path then some now else last other)
    (hnow : ∀ other n, last other = some n → n < now) (hkeys : r'.keys = path :: rest)
    (hrest : rest.Sublist (r.keys.filter (· != path))) : r'.ListedBy last' := by
  have hself : last' path = some now := (hlast path).trans (if_pos rfl)
  have hothers : ∀ other ∈ rest, other ∈ r.keys ∧ last' other = last other := by
    intro other hother
    obtain ⟨hmem, hne⟩ := List.mem_filter.1 (hrest.mem hother)
    exact ⟨hmem, (hlast other).trans (if_neg (by simpa using hne))⟩
  constructor
  · rw [hkeys]
    refine List.forall_mem_cons.2 ⟨by rw [hself]; rfl, fun other hother => ?_⟩
    obtain ⟨hmem, heq⟩ := hothers other hother
    rw [heq]
    exact h.used other hmem
  · rw [hkeys, List.pairwise_cons]
    constructor
    · intro other hother
      obtain ⟨hmem, heq⟩ := hothers other hother
      obtain ⟨n, hn⟩ := Option.isSome_iff_exists.1 (h.used other hmem)
      rw [heq, hself, hn, Option.some_lt_some]
      exact hnow other n hn
    · -- the others keep their order and their times
      refine (h.latestFirst.sublist (hrest.trans List.filter_sublist)).imp_of_mem ?_
      intro newer older hnewer holder hlt
      rwa [(hothers older holder).2, (hothers newer hnewer).2]

/-- **The last entry** is the one whose use is the oldest. -/
theorem oldest (h : r.ListedBy last) (hne : r.keys ≠ []) :
    ∃ front victim, r.keys = front ++ [victim] ∧ victim ∉ front ∧
      ∀ other ∈ front, last victim < last other := by
  have hsplit := List.dropLast_concat_getLast hne
  have hpair := h.latestFirst
  have hdistinct : r.keys.Nodup := h.distinct
  rw [← hsplit] at hpair hdistinct
  refine ⟨_, _, hsplit.symm, fun hmem => ?_, fun other hother => ?_⟩
  · exact (List.nodup_append.1 hdistinct).2.2 _ hmem _ (List.mem_singleton_self _) rfl
  · exact (List.pairwise_append.1 hpair).2.2 other hother _ (List.mem_singleton_self _)

end ListedBy

/-! ## Bounded maps in order -/

/-- No more entries than there is room for, listed by their last uses. -/
structure InOrder (last : String → Option Nat) (r : Recent α) : Prop where
  room : 0 < r.capacity
  fits : r.size ≤ r.capacity
  listed : r.ListedBy last

theorem inOrder_ofCapacity (last : String → Option Nat) (capacity : Nat) :
    (ofCapacity capacity : Recent α).InOrder last :=
  ⟨Nat.le_max_right capacity 1, Nat.zero_le _, nofun, .nil⟩

namespace InOrder

variable {last last' : String → Option Nat} {now : Nat}

theorem erase (h : r.InOrder last) (path : String) : (r.erase path).InOrder last where
  room := h.room
  fits := Nat.le_trans (List.length_filter_le ..) h.fits
  listed := h.listed.sublist (keys_erase r path ▸ List.filter_sublist)

section

variable (h : r.InOrder last)
  (hlast : ∀ other, last' other = if other = path then some now else last other)
  (hnow : ∀ other n, last other = some n → n < now)

include h hlast hnow

theorem touch (hheld : r.contains path = true) : (r.touch path).InOrder last' where
  room := (capacity_touch r path).symm ▸ h.room
  fits := by
    rw [capacity_touch, size, (perm_touch h.listed.distinct path).length_eq]
    exact h.fits
  listed := h.listed.use hlast hnow (keys_touch (mem_keys_iff.2 hheld)) (.refl _)

theorem put (a : α) : (r.put path a).InOrder last' where
  room := h.room
  fits := by
    have hroom := h.room
    have htake := List.length_take_le (r.capacity - 1) (r.keys.filter (· != path))
    rw [← length_keys, keys_put, List.length_cons, capacity_put]
    omega
  listed := h.listed.use hlast hnow (keys_put r path a) (List.take_sublist ..)

end

/-- **A value that fits** is added to the others. -/
theorem contains_put_of_fits (h : r.InOrder last) (a : α)
    (hfits : r.contains path = true ∨ r.size < r.capacity) :
    (r.put path a).contains other = true ↔ other = path ∨ r.contains other = true := by
  rw [← mem_keys_iff] at hfits
  rw [← mem_keys_iff, ← mem_keys_iff, keys_put_of_fits h.fits hfits, List.mem_cons,
    List.mem_filter]
  by_cases hother : other = path
  · simp [hother]
  · simp [hother]

/-- **A value that does not fit** is added to all others but the one whose use is the oldest. -/
theorem exists_victim (h : r.InOrder last) (a : α) (hnew : r.contains path = false)
    (hfull : r.size = r.capacity) :
    ∃ victim, r.contains victim = true ∧ victim ≠ path ∧
      (∀ other, (r.put path a).contains other = true ↔
        other = path ∨ r.contains other = true ∧ other ≠ victim) ∧
      ∀ other, r.contains other = true → other ≠ victim → last victim < last other := by
  have hpath : path ∉ r.keys := fun hmem => by
    rw [mem_keys_iff, hnew] at hmem
    cases hmem
  have hne : r.keys ≠ [] := by
    have hroom := h.room
    rw [← hfull, ← length_keys] at hroom
    exact List.ne_nil_of_length_pos hroom
  obtain ⟨front, victim, hkeys, hvictim, holdest⟩ := h.listed.oldest hne
  have hmem : ∀ other, r.contains other = true ↔ other ∈ front ∨ other = victim := by
    intro other
    rw [← mem_keys_iff, hkeys, List.mem_append, List.mem_singleton]
  refine ⟨victim, (hmem victim).2 (.inr rfl), fun heq => ?_, fun other => ?_,
    fun other hother hne => ?_⟩
  · rw [hkeys, ← heq] at hpath
    exact hpath (List.mem_append_right front (List.mem_singleton_self victim))
  · rw [← mem_keys_iff, keys_put_of_full hpath hfull, hkeys, List.dropLast_concat, List.mem_cons,
      hmem]
    constructor
    · rintro (heq | hfront)
      · exact .inl heq
      · exact .inr ⟨.inl hfront, fun heq => hvictim (heq ▸ hfront)⟩
    · rintro (heq | ⟨hfront | heq, hother⟩)
      · exact .inl heq
      · exact .inr hfront
      · exact absurd heq hother
  · exact holdest other (((hmem other).1 hother).resolve_right hne)

end InOrder

end CodeSnapshot.Recent

import CodeSnapshot.Proofs.Sorted.MapLookup
import CodeSnapshot.Sorted.Set

/-!
# Members of sets

What a set holds after a change, and what holds of the keys and members of a map of sets:

* **`mem_insert`**, **`mem_insertAll`**, **`mem_ofList`** — the members of a set that was put
  together.
* **`AllNames`** — a condition on every name in a map of sets, on either side;
  `AllNames.linkAll` keeps it when names are added, and `allNames_iff` lists the names.
-/

namespace CodeSnapshot

namespace StringSet

variable {s : StringSet} {x y : String}

theorem contains_iff : s.contains x = true ↔ x ∈ s :=
  StringMap.mem_keys_iff.symm

theorem not_mem_empty : x ∉ empty := List.not_mem_nil

theorem mem_insert : y ∈ s.insert x ↔ y = x ∨ y ∈ s :=
  StringMap.mem_keys_insert

theorem mem_insertAll {xs : List String} : y ∈ s.insertAll xs ↔ y ∈ xs ∨ y ∈ s := by
  induction xs generalizing s with
  | nil => simp [insertAll]
  | cons x xs ih =>
    show y ∈ (s.insert x).insertAll xs ↔ _
    rw [ih, mem_insert, List.mem_cons, or_left_comm, or_assoc]

theorem mem_ofList {xs : List String} : y ∈ ofList xs ↔ y ∈ xs := by
  rw [ofList, mem_insertAll]
  exact or_iff_left not_mem_empty

theorem mem_erase : y ∈ s.erase x ↔ y ∈ s ∧ y ≠ x := by
  show y ∈ (s.map.entries.filter (·.1 != x)).map (·.1) ↔ y ∈ s.map.entries.map (·.1) ∧ y ≠ x
  simp [List.mem_map, List.mem_filter]

theorem pairwise_toList (s : StringSet) : s.toList.Pairwise (· < ·) :=
  List.pairwise_map.2 s.map.ascending

theorem nodup_toList (s : StringSet) : s.toList.Nodup :=
  s.pairwise_toList.imp String.ne_of_lt

end StringSet

namespace StringMap

/-- A condition on the keys of a map of sets, and on the members of the sets. -/
structure AllNames (P : String → Prop) (m : StringMap StringSet) : Prop where
  key : ∀ key members, m.get? key = some members → P key
  member : ∀ key members, m.get? key = some members → ∀ x ∈ members, P x

variable {P : String → Prop} {m : StringMap StringSet}

theorem allNames_empty : AllNames P empty := ⟨nofun, nofun⟩

theorem AllNames.imp {Q : String → Prop} (h : AllNames P m) (hpq : ∀ x, P x → Q x) :
    AllNames Q m :=
  ⟨fun key members hget => hpq key (h.key key members hget),
    fun key members hget x hx => hpq x (h.member key members hget x hx)⟩

/-- Names are added. -/
theorem AllNames.linkAll {key : String} {added : List String} (h : AllNames P m) (hkey : P key)
    (hadded : ∀ x ∈ added, P x) : AllNames P (m.linkAll key added) := by
  have hset : ∀ x ∈ ((m.get? key).getD .empty).insertAll added, P x := by
    intro x hx
    rcases StringSet.mem_insertAll.1 hx with hnew | hold
    · exact hadded x hnew
    · cases hget : m.get? key with
      | none => rw [hget] at hold; exact absurd hold StringSet.not_mem_empty
      | some old => rw [hget] at hold; exact h.member key old hget x hold
  constructor
  · intro other members hget
    by_cases hother : other = key
    · rwa [hother]
    · rw [StringMap.linkAll, get?_alter_ne m _ hother] at hget
      exact h.key other members hget
  · intro other members hget
    by_cases hother : other = key
    · rw [hother, StringMap.linkAll, get?_alter_self] at hget
      rwa [← Option.some.inj hget]
    · rw [StringMap.linkAll, get?_alter_ne m _ hother] at hget
      exact h.member other members hget

theorem AllNames.link {key x : String} (h : AllNames P m) (hkey : P key) (hx : P x) :
    AllNames P (m.link key x) :=
  h.linkAll hkey fun _ hy => List.mem_singleton.1 hy ▸ hx

/-- The keys of a map of sets, each before the members of its set. -/
def names (m : StringMap StringSet) : List String :=
  m.entries.flatMap fun e => e.1 :: e.2.toList

theorem allNames_iff : AllNames P m ↔ ∀ name ∈ m.names, P name := by
  constructor
  · intro h name hname
    obtain ⟨e, he, hin⟩ := List.mem_flatMap.1 hname
    have hget := mem_entries_iff.1 he
    rcases List.mem_cons.1 hin with rfl | hmember
    · exact h.key _ _ hget
    · exact h.member _ _ hget name hmember
  · intro h
    refine ⟨fun key members hget => ?_, fun key members hget x hx => ?_⟩
    · exact h key (List.mem_flatMap.2 ⟨_, mem_entries_iff.2 hget, List.mem_cons_self ..⟩)
    · exact h x (List.mem_flatMap.2 ⟨_, mem_entries_iff.2 hget, List.mem_cons_of_mem key hx⟩)

end StringMap

end CodeSnapshot

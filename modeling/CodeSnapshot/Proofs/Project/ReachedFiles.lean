import CodeSnapshot.Project.Components
import CodeSnapshot.Proofs.Project.MirroredGraphs
import Mathlib.Data.List.Nodup
import Mathlib.Logic.Relation

/-!
# Reached files — the search for components finds what there is a way to

A graph of numbers is searched with a list of numbers still to do and a list of those that were seen,
and with fuel for a number of steps. What the search finds is what there is a way to, and so the
numbers that find each other make up the strongly connected components.

* **`Graph.Leads`**, **`Graph.Reaches`** — an edge of a graph of files, and a way of at least one edge.
* **`exists_way_of_mem_follow`** — all that is found is on a way from what was to be done.
* **`pending`** — the edges whose number was not seen yet. Each step of the search uses up one of
  them or one of the numbers to do, so that `closed_follow` can say what the search comes to before
  its fuel does.
* **`mem_reachable_iff`** — what is found is what there is a way to.
* **`AreComponents`** — the strongly connected components of a graph of numbers, in any order;
  **`areComponents_components`** is the headline.
-/

namespace CodeSnapshot

namespace Graph

/-- An edge of the graph. -/
def Leads (g : Graph) (file other : String) : Prop :=
  other ∈ g.next file

/-- A way of one edge or more. -/
def Reaches (g : Graph) : String → String → Prop :=
  Relation.TransGen g.Leads

end Graph

/-- A count of which every item has its part in one of two others, and in one only. -/
theorem countP_split {α : Type} {p q r : α → Bool}
    (h : ∀ a, (if p a then 1 else 0) + (if q a then 1 else 0) = if r a then 1 else 0)
    (items : List α) : items.countP p + items.countP q = items.countP r := by
  induction items with
  | nil => rfl
  | cons a items ih =>
    rw [List.countP_cons, List.countP_cons, List.countP_cons, ← h a, ← ih]
    omega

namespace NumberedGraph

variable {n : NumberedGraph} {i j start fuel : Nat} {todo seen members : List Nat}

/-- An edge of the graph. -/
def Leads (n : NumberedGraph) (i j : Nat) : Prop :=
  (i, j) ∈ n.edges

/-- A way of any number of edges. -/
abbrev Ways (n : NumberedGraph) : Nat → Nat → Prop :=
  Relation.ReflTransGen n.Leads

theorem mem_next_iff : j ∈ n.next i ↔ n.Leads i j := by
  simp [next, Leads]

/-! ## What is found -/

/-- **Nothing else is found**: each number was seen before, or there is a way to it from one of those
that were to be done. -/
theorem exists_way_of_mem_follow (h : j ∈ n.follow fuel todo seen) :
    j ∈ seen ∨ ∃ i ∈ todo, n.Ways i j := by
  fun_induction follow n fuel todo seen with
  | case1 => exact .inl h
  | case2 => exact .inl h
  | case3 fuel i todo seen hseen ih =>
    rcases ih h with hold | ⟨start, hstart, hway⟩
    · exact .inl hold
    · exact .inr ⟨start, List.mem_cons_of_mem i hstart, hway⟩
  | case4 fuel i todo seen hseen ih =>
    -- the number is seen now, and its neighbours are to be done
    have hi : i ∈ i :: todo := List.mem_cons_self ..
    rcases ih h with hnow | ⟨start, hstart, hway⟩
    · rcases List.mem_cons.1 hnow with rfl | hold
      · exact .inr ⟨j, hi, .refl⟩
      · exact .inl hold
    · rcases List.mem_append.1 hstart with hnext | htodo
      · exact .inr ⟨i, hi, .head (mem_next_iff.1 hnext) hway⟩
      · exact .inr ⟨start, List.mem_cons_of_mem i htodo, hway⟩

/-! ## What is left to do -/

/-- How many edges go out from numbers that were not seen yet. -/
def pending (n : NumberedGraph) (seen : List Nat) : Nat :=
  n.edges.countP fun e => ! seen.contains e.1

theorem length_next (n : NumberedGraph) (i : Nat) :
    (n.next i).length = n.edges.countP (·.1 == i) := by
  rw [next, List.length_map, List.countP_eq_length_filter]

/-- A number that is seen for the first time takes its edges out of those that are pending. -/
theorem pending_cons (hnew : i ∉ seen) :
    (n.next i).length + n.pending (i :: seen) = n.pending seen := by
  rw [length_next]
  refine countP_split (fun e => ?_) n.edges
  by_cases he : e.1 = i
  · simp [he, hnew]
  · simp [he]

/-- The neighbours of the numbers that were seen are not forgotten. -/
def Covers (n : NumberedGraph) (todo seen : List Nat) : Prop :=
  ∀ i ∈ seen, ∀ j, n.Leads i j → j ∈ seen ∨ j ∈ todo

/-- **All is found.** If the fuel is more than what is left to do, the search ends with a list that
has all the numbers it was given, and whatever these lead to. -/
theorem closed_follow (hcovers : n.Covers todo seen)
    (hfuel : todo.length + n.pending seen < fuel) :
    (∀ i, i ∈ seen ∨ i ∈ todo → i ∈ n.follow fuel todo seen) ∧
      ∀ i ∈ n.follow fuel todo seen, ∀ j, n.Leads i j → j ∈ n.follow fuel todo seen := by
  fun_induction follow n fuel todo seen with
  | case1 => omega
  | case2 fuel seen =>
    have hnone {i : Nat} (h : i ∈ seen ∨ i ∈ []) : i ∈ seen :=
      h.resolve_right List.not_mem_nil
    refine ⟨fun i h => hnone h, fun i hi j hleads => ?_⟩
    exact hnone (hcovers i hi j hleads)
  | case3 fuel i todo seen hseen ih =>
    have hi : i ∈ seen := by simpa using hseen
    have hless : todo.length + n.pending seen < fuel := by
      rw [List.length_cons] at hfuel
      omega
    have hrest {j : Nat} (h : j ∈ seen ∨ j ∈ i :: todo) : j ∈ seen ∨ j ∈ todo := by
      rcases h with h | h
      · exact .inl h
      · rcases List.mem_cons.1 h with rfl | h
        · exact .inl hi
        · exact .inr h
    obtain ⟨hall, hclosed⟩ :=
      ih (fun start hstart j hleads => hrest (hcovers start hstart j hleads)) hless
    exact ⟨fun j h => hall j (hrest h), hclosed⟩
  | case4 fuel i todo seen hseen ih =>
    have hnew : i ∉ seen := by simpa using hseen
    -- one step less to do, for the edges of the number are no longer pending
    have hless : (n.next i ++ todo).length + n.pending (i :: seen) < fuel := by
      have hpending := pending_cons (n := n) hnew
      rw [List.length_cons] at hfuel
      rw [List.length_append]
      omega
    have hmoved {j : Nat} (h : j ∈ seen ∨ j ∈ i :: todo) :
        j ∈ i :: seen ∨ j ∈ n.next i ++ todo := by
      rcases h with h | h
      · exact .inl (List.mem_cons_of_mem i h)
      · rcases List.mem_cons.1 h with rfl | h
        · exact .inl (List.mem_cons_self ..)
        · exact .inr (List.mem_append_right _ h)
    have hcovers' : n.Covers (n.next i ++ todo) (i :: seen) := by
      intro start hstart j hleads
      rcases List.mem_cons.1 hstart with rfl | hstart
      · exact .inr (List.mem_append_left todo (mem_next_iff.2 hleads))
      · exact hmoved (hcovers start hstart j hleads)
    obtain ⟨hall, hclosed⟩ := ih hcovers' hless
    exact ⟨fun j h => hall j (hmoved h), hclosed⟩

/-- **What there is a way to** is found by the search. -/
theorem mem_reachable_iff : j ∈ n.reachable start ↔ n.Ways start j := by
  constructor
  · intro h
    rcases exists_way_of_mem_follow h with hnone | ⟨i, hi, hway⟩
    · exact absurd hnone List.not_mem_nil
    · obtain rfl := List.mem_singleton.1 hi
      exact hway
  · intro h
    have hpending : n.pending [] ≤ n.edges.length := List.countP_le_length
    have hfuel : [start].length + n.pending [] < n.edges.length + 2 := by
      rw [List.length_singleton]
      omega
    have hcovers : n.Covers [start] [] := nofun
    obtain ⟨hall, hclosed⟩ := closed_follow hcovers hfuel
    induction h with
    | refl => exact hall _ (.inr (List.mem_singleton.2 rfl))
    | tail _ hleads ih => exact hclosed _ ih _ hleads

/-! ## Components -/

/-- The strongly connected components: every number is in one of them, and with it are the numbers
that it has ways to and from which ways lead back. They come in any order. -/
structure AreComponents (n : NumberedGraph) (components : List (List Nat)) : Prop where
  covered : ∀ i, (∃ members ∈ components, i ∈ members) ↔ i < n.size
  together : ∀ members ∈ components, ∀ i ∈ members, ∀ j,
    j ∈ members ↔ j < n.size ∧ n.Ways i j ∧ n.Ways j i
  filled : ∀ members ∈ components, members ≠ []
  once : components.flatten.Nodup

theorem mem_component_iff :
    j ∈ n.component i ↔ j < n.size ∧ n.Ways i j ∧ n.Ways j i := by
  rw [component, List.mem_filter, List.mem_range, Bool.and_eq_true, List.contains_iff_mem,
    List.contains_iff_mem, mem_reachable_iff, mem_reachable_iff]

/-- **One component** for all of its numbers. -/
theorem component_eq (h : j ∈ n.component i) : n.component j = n.component i := by
  obtain ⟨-, hthere, hback⟩ := mem_component_iff.1 h
  refine List.filter_congr fun k _ => Bool.eq_iff_iff.2 ?_
  rw [Bool.and_eq_true, Bool.and_eq_true, List.contains_iff_mem, List.contains_iff_mem,
    List.contains_iff_mem, List.contains_iff_mem, mem_reachable_iff, mem_reachable_iff,
    mem_reachable_iff, mem_reachable_iff]
  constructor
  · rintro ⟨hto, hfrom⟩
    exact ⟨hthere.trans hto, hfrom.trans hback⟩
  · rintro ⟨hto, hfrom⟩
    exact ⟨hback.trans hto, hfrom.trans hthere⟩

/-- The components that are listed are those of their own first numbers. -/
theorem mem_components_iff :
    members ∈ n.components ↔ ∃ i, members = n.component i ∧ members.head? = some i := by
  constructor
  · intro h
    obtain ⟨i, -, hlisted⟩ := List.mem_filterMap.1 h
    by_cases hfirst : (n.component i).head? = some i
    · obtain rfl : n.component i = members := by simpa [hfirst] using hlisted
      exact ⟨i, rfl, hfirst⟩
    · simp [hfirst] at hlisted
  · rintro ⟨i, rfl, hfirst⟩
    have hi := (mem_component_iff.1 (List.mem_of_head? hfirst)).1
    exact List.mem_filterMap.2 ⟨i, List.mem_range.2 hi, by simp only [hfirst, if_true]⟩

theorem component_mem_components (hi : i < n.size) : n.component i ∈ n.components := by
  have hself : i ∈ n.component i := mem_component_iff.2 ⟨hi, .refl, .refl⟩
  obtain ⟨first, hfirst⟩ : ∃ first, (n.component i).head? = some first := by
    cases hnumbers : n.component i with
    | nil =>
      rw [hnumbers] at hself
      cases hself
    | cons first rest => exact ⟨first, rfl⟩
  exact mem_components_iff.2 ⟨first, (component_eq (List.mem_of_head? hfirst)).symm, hfirst⟩

/-- A component is the one of each of its numbers. -/
theorem eq_component_of_mem (h : members ∈ n.components) (hi : i ∈ members) :
    members = n.component i := by
  obtain ⟨first, rfl, -⟩ := mem_components_iff.1 h
  exact (component_eq hi).symm

/-- **The search finds the strongly connected components.** -/
theorem areComponents_components (n : NumberedGraph) : n.AreComponents n.components where
  covered i := by
    constructor
    · rintro ⟨members, hmembers, hi⟩
      rw [eq_component_of_mem hmembers hi] at hi
      exact (mem_component_iff.1 hi).1
    · intro hi
      exact ⟨_, component_mem_components hi, mem_component_iff.2 ⟨hi, .refl, .refl⟩⟩
  together members hmembers i hi j := by
    rw [eq_component_of_mem hmembers hi, mem_component_iff]
  filled members hmembers hempty := by
    obtain ⟨i, -, hfirst⟩ := mem_components_iff.1 hmembers
    rw [hempty] at hfirst
    cases hfirst
  once := by
    refine List.nodup_flatten.2 ⟨fun members hmembers => ?_, ?_⟩
    · obtain ⟨i, rfl, -⟩ := mem_components_iff.1 hmembers
      exact List.nodup_range.filter _
    · -- two components with a number in common have the same first number
      rw [components, List.pairwise_filterMap]
      refine List.nodup_range.imp fun {i j} hne members hmembers others hothers => ?_
      have hhead {k : Nat} {numbers : List Nat}
          (h : (if (n.component k).head? = some k then some (n.component k) else none) =
            some numbers) : numbers = n.component k ∧ numbers.head? = some k := by
        split at h
        · obtain rfl := Option.some.inj h
          exact ⟨rfl, ‹_›⟩
        · cases h
      obtain ⟨rfl, hi⟩ := hhead hmembers
      obtain ⟨rfl, hj⟩ := hhead hothers
      intro k hk hk'
      rw [← component_eq hk, component_eq hk', hj] at hi
      exact hne (Option.some.inj hi).symm

end NumberedGraph

end CodeSnapshot

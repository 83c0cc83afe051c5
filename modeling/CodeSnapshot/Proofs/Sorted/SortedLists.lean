import CodeSnapshot.Sorted.List
import Mathlib.Data.List.Sort

/-!
# Sorted lists — sorting rearranges a list

* **`perm_sortedBy`** — a sorted list has the items that it had before.
* **`pairwise_sortedBy`** — they are in order, if any two items can be compared.
* **`filter_sortedBy`** — items that the order does not tell apart from one another keep the order in
  which they came.
-/

namespace CodeSnapshot

variable {α : Type} {le : α → α → Bool} {items : List α}

theorem sortedBy_eq (le : α → α → Bool) (items : List α) :
    sortedBy le items = items.insertionSort fun a b => le a b := by
  have hinsert (item : α) (items : List α) :
      insertBy le item items = items.orderedInsert (fun a b => le a b) item := by
    induction items with
    | nil => rfl
    | cons first rest ih => rw [insertBy, List.orderedInsert_cons, ih]
  induction items with
  | nil => rfl
  | cons first rest ih =>
    rw [List.insertionSort_cons, ← ih, ← hinsert]
    rfl

theorem perm_sortedBy (le : α → α → Bool) (items : List α) : (sortedBy le items).Perm items :=
  sortedBy_eq le items ▸ List.perm_insertionSort ..

theorem mem_sortedBy {item : α} : item ∈ sortedBy le items ↔ item ∈ items :=
  (perm_sortedBy le items).mem_iff

theorem pairwise_sortedBy (le : α → α → Bool) (htotal : ∀ a b, le a b ∨ le b a)
    (htrans : ∀ a b c, le a b → le b c → le a c) (items : List α) :
    (sortedBy le items).Pairwise fun a b => le a b := by
  have : Std.Total fun a b => le a b = true := ⟨htotal⟩
  have : IsTrans α fun a b => le a b = true := ⟨htrans⟩
  rw [sortedBy_eq]
  exact List.pairwise_insertionSort ..

/-- Items of a kind keep their order if no two of them are told apart. -/
theorem filter_sortedBy {kind : α → Bool} (hkind : ∀ a b, kind a → kind b → le a b)
    (items : List α) : (sortedBy le items).filter kind = items.filter kind := by
  have hinsert (item : α) (items : List α) :
      (insertBy le item items).filter kind = (item :: items).filter kind := by
    induction items with
    | nil => rfl
    | cons first rest ih =>
      rw [insertBy]
      split
      · rfl
      · rename_i hbehind
        rw [List.filter_cons, ih, List.filter_cons, List.filter_cons, List.filter_cons]
        by_cases hfirst : kind first
        · have hitem : ¬ kind item := fun hitem => hbehind (hkind item first hitem hfirst)
          simp [hitem]
        · simp [hfirst]
  induction items with
  | nil => rfl
  | cons first rest ih =>
    rw [show sortedBy le (first :: rest) = insertBy le first (sortedBy le rest) from rfl, hinsert,
      List.filter_cons, List.filter_cons, ih]

/-- **Different items in order** ascend. -/
theorem pairwise_lt_sortedBy [LT α] [LE α] [Std.LawfulOrderLT α] [Std.IsLinearOrder α]
    (hle : ∀ a b, le a b = true ↔ a ≤ b) (h : items.Nodup) :
    (sortedBy le items).Pairwise (· < ·) := by
  have hsorted := pairwise_sortedBy le (fun a b => by rw [hle, hle]; exact Std.le_total)
    (fun a b c => by rw [hle, hle, hle]; exact Std.le_trans) items
  have hnodup := (perm_sortedBy le items).nodup_iff.2 h
  exact (hsorted.and hnodup).imp fun hpair => Std.lt_of_le_of_ne ((hle _ _).1 hpair.1) hpair.2

end CodeSnapshot

import CodeSnapshot.Query.Value

/-!
# Sorting values

Values are sorted by keys. How they are sorted is a parameter, of which no more is known than this: where
the comparisons of the keys can be chained, equal keys keep their order, which leaves one result only;
short lists are sorted by insertion, whatever their keys are; and in any other list no entry is lost, if
sorting comes to an end at all.
-/

namespace CodeSnapshot

namespace Value

/-- The comparisons among some values can be chained. -/
def Orderly (vs : List Value) : Prop :=
  ∀ a ∈ vs, ∀ b ∈ vs, ∀ c ∈ vs,
    (a.compare b).isLE → (b.compare c).isLE → (a.compare c).isLE

/-- Puts an entry behind the last one whose key is not greater; the list is newest first. -/
def insertSorted (entry : Value × Value) : List (Value × Value) → List (Value × Value)
  | [] => [entry]
  | last :: earlier =>
    if entry.1.compare last.1 = .lt then last :: insertSorted entry earlier
    else entry :: last :: earlier

/-- Entries sorted by insertion: each one is put in among those before it. -/
def inserted (entries : List (Value × Value)) : List (Value × Value) :=
  (entries.foldl (fun sorted entry => insertSorted entry sorted) []).reverse

/-- Values sorted by insertion, by their keys. -/
def insertedBy (key : Value → Value) (vs : List Value) : List Value :=
  (inserted (vs.map fun v => (key v, v))).map (·.2)

theorem perm_insertSorted (entry : Value × Value) (sorted : List (Value × Value)) :
    (insertSorted entry sorted).Perm (entry :: sorted) := by
  induction sorted with
  | nil => exact .refl _
  | cons last earlier ih =>
    rw [insertSorted]
    split
    · exact (ih.cons last).trans (.swap entry last earlier)
    · exact .refl _

theorem perm_inserted (entries : List (Value × Value)) : (inserted entries).Perm entries := by
  have hfold (entries sorted : List (Value × Value)) :
      (entries.foldl (fun sorted entry => insertSorted entry sorted) sorted).Perm
        (entries ++ sorted) := by
    induction entries generalizing sorted with
    | nil => exact .refl _
    | cons entry entries ih =>
      refine (ih _).trans ?_
      exact ((perm_insertSorted entry sorted).append_left entries).trans List.perm_middle
  have hall := hfold entries []
  rw [List.append_nil] at hall
  exact (List.reverse_perm _).trans hall

end Value

/-- The length up to which lists are sorted by insertion. -/
def Sorting.shortLength : Nat := 20

/-- A way to sort entries by their keys. It may break off where the keys cannot be chained. -/
class Sorting where
  sort : List (Value × Value) → Option (List (Value × Value))
  perm : ∀ {entries sorted}, sort entries = some sorted → sorted.Perm entries
  sort_of_orderly : ∀ entries, Value.Orderly (entries.map (·.1)) →
    sort entries = some (Value.inserted entries)
  sort_of_short : ∀ entries, entries.length ≤ Sorting.shortLength →
    sort entries = some (Value.inserted entries)

namespace Sorting

/-- All lists are sorted by insertion. -/
@[reducible] def byInsertion : Sorting where
  sort entries := some (Value.inserted entries)
  perm := by
    rintro entries _ ⟨⟩
    exact Value.perm_inserted entries
  sort_of_orderly _ _ := rfl
  sort_of_short _ _ := rfl

end Sorting

/-- The values in ascending order of their keys, unless sorting breaks off. -/
def Value.sortBy [Sorting] (key : Value → Value) (vs : List Value) : Option (List Value) :=
  (Sorting.sort (vs.map fun v => (key v, v))).map fun sorted => sorted.map (·.2)

namespace Value

variable [Sorting] {key : Value → Value} {vs ws : List Value}

/-- What is sorted is what there was. -/
theorem perm_of_sortBy (h : sortBy key vs = some ws) : ws.Perm vs := by
  obtain ⟨sorted, hsorted, rfl⟩ := Option.map_eq_some_iff.1 h
  have hperm := (Sorting.perm hsorted).map (·.2)
  rwa [List.map_map, show ((·.2) ∘ fun v => (key v, v)) = id from rfl, List.map_id] at hperm

/-- Values are sorted by insertion where the comparisons of their keys can be chained. -/
theorem sortBy_of_orderly (h : Orderly (vs.map key)) :
    sortBy key vs = some (insertedBy key vs) := by
  have hkeys : Orderly ((vs.map fun v => (key v, v)).map (·.1)) := by rwa [List.map_map]
  rw [sortBy, Sorting.sort_of_orderly _ hkeys]
  rfl

/-- So are they where there are few of them. -/
theorem sortBy_of_short (h : vs.length ≤ Sorting.shortLength) :
    sortBy key vs = some (insertedBy key vs) := by
  have hshort : (vs.map fun v => (key v, v)).length ≤ Sorting.shortLength := by
    rwa [List.length_map]
  rw [sortBy, Sorting.sort_of_short _ hshort]
  rfl

end Value

end CodeSnapshot

import CodeSnapshot.Instances
import CodeSnapshot.Query.Eval
import Mathlib.Data.List.Perm.Subperm
import Mathlib.Data.List.Sort

/-!
# Value order — when values can be sorted

Values compare by three rules: `null` comes first, two numbers compare as numbers, everything else
as text. Each rule is an order, but the second and the third need not agree: 9 comes before 10, and
the text of 10 before the text of 9. So a value that compares as text can stand between two numbers
the wrong way round, and then there is no order to sort by.

* **`compare_self`**, **`compare_swap`** — what holds of all values.
* **`Torn`** — two numbers among some values, with a third value between them the wrong way round.
  **`orderly_iff_not_torn`** says that nothing else keeps the comparison from being transitive.
* **`insertedBy_eq`** — sorting is insertion from the far end. From there `perm_insertedBy`,
  `pairwise_insertedBy` and `sublist_insertedBy` say what it does to the values.
* **`Circular`** — three values, each before the next one and the last before the first. However such
  values are sorted, they are not in order: `not_pairwise_of_circular`.
* **`sorts_iff_not_torn`** — the headline: values are sorted rightly, in whichever order they come,
  if they are not torn. For lists that are short the converse holds too, and for all lists if they are
  circular; what comes of the others is left to the way of sorting. `not_sorted_of_text_between` is a
  command whose result is not in order.
-/

namespace CodeSnapshot

theorem Double.orderKey_inj {x y : Double} (h : x.orderKey = y.orderKey) : x = y := by
  have hx := x.bits.toNat_lt
  have hy := y.bits.toNat_lt
  have hbits : x.bits.toNat = y.bits.toNat := by
    have hsign : signBit = 9223372036854775808 := rfl
    simp only [orderKey, isNegative, magnitude, hsign, decide_eq_true_eq] at h
    split at h <;> split at h <;> omega
  cases x
  cases y
  exact congrArg Double.mk (UInt64.toNat_inj.1 hbits)

namespace Value

variable {a b c v : Value} {vs : List Value} {key : Value → Value} {x y z : Double}

/-! ## Comparing two values -/

/-- A value that compares as text with all values but `null`. -/
def IsTextual (v : Value) : Prop :=
  v ≠ null ∧ v.number? = none

theorem number_ne_null (x : Double) : number x ≠ null := nofun

theorem cases_rule (v : Value) : v = null ∨ (∃ x, v = number x) ∨ v.IsTextual := by
  cases v with
  | null => exact .inl rfl
  | number x => exact .inr (.inl ⟨x, rfl⟩)
  | bool _ | text _ | hit _ | list _ | record _ => exact .inr (.inr ⟨nofun, rfl⟩)

theorem compare_numbers (x y : Double) :
    (number x).compare (number y) = Ord.compare x.orderKey y.orderKey := rfl

/-- The third rule, with the value in front. -/
theorem compare_of_textual (ha : a.IsTextual) (hb : b ≠ null) :
    a.compare b = Ord.compare a.toText b.toText := by
  cases a with
  | null => exact absurd rfl ha.1
  | number x => cases ha.2
  | bool _ | text _ | hit _ | list _ | record _ =>
    cases b with
    | null => exact absurd rfl hb
    | _ => rfl

/-- The third rule, with the value behind. -/
theorem compare_textual_of (ha : a ≠ null) (hb : b.IsTextual) :
    a.compare b = Ord.compare a.toText b.toText := by
  cases b with
  | null => exact absurd rfl hb.1
  | number x => cases hb.2
  | bool _ | text _ | hit _ | list _ | record _ =>
    cases a with
    | null => exact absurd rfl ha
    | _ => rfl

theorem compare_self (a : Value) : a.compare a = .eq := by
  rcases a.cases_rule with rfl | ⟨x, rfl⟩ | ha
  · rfl
  · rw [compare_numbers]
    exact Std.ReflCmp.compare_self
  · rw [compare_of_textual ha ha.1]
    exact Std.ReflCmp.compare_self

theorem compare_swap (a b : Value) : a.compare b = (b.compare a).swap := by
  rcases a.cases_rule with rfl | ⟨x, rfl⟩ | ha
  · cases b <;> rfl
  · rcases b.cases_rule with rfl | ⟨y, rfl⟩ | hb
    · rfl
    · rw [compare_numbers, compare_numbers]
      exact Std.OrientedCmp.eq_swap
    · rw [compare_textual_of (number_ne_null x) hb, compare_of_textual hb (number_ne_null x)]
      exact Std.OrientedCmp.eq_swap
  · by_cases hb : b = null
    · rw [hb]
      cases a <;> rfl
    · rw [compare_of_textual ha hb, compare_textual_of hb ha]
      exact Std.OrientedCmp.eq_swap

theorem isLE_total (a b : Value) : (a.compare b).isLE ∨ (b.compare a).isLE := by
  rw [compare_swap a b]
  cases b.compare a with
  | lt => exact .inr rfl
  | eq => exact .inr rfl
  | gt => exact .inl rfl

theorem not_isLE_iff : ¬ (a.compare b).isLE ↔ b.compare a = .lt := by
  rw [compare_swap a b]
  cases b.compare a with
  | lt => exact iff_of_true Bool.false_ne_true rfl
  | eq => exact iff_of_false (fun h => h rfl) nofun
  | gt => exact iff_of_false (fun h => h rfl) nofun

theorem isLE_null_iff : (a.compare null).isLE ↔ a = null := by
  cases a with
  | null => exact iff_of_true rfl rfl
  | _ => exact iff_of_false Bool.false_ne_true nofun

theorem null_isLE (a : Value) : (null.compare a).isLE := by
  cases a <;> rfl

theorem isLE_compare_text {s t : String} : (Ord.compare s t).isLE ↔ s ≤ t :=
  isLE_compareOfLessAndEq String.le_antisymm String.not_le String.le_total

theorem isLE_of_textual (ha : a.IsTextual) (hb : b ≠ null) :
    (a.compare b).isLE ↔ a.toText ≤ b.toText := by
  rw [compare_of_textual ha hb, isLE_compare_text]

theorem isLE_textual_of (ha : a ≠ null) (hb : b.IsTextual) :
    (a.compare b).isLE ↔ a.toText ≤ b.toText := by
  rw [compare_textual_of ha hb, isLE_compare_text]

/-- Two numbers whose texts stand the other way round are not the same. -/
theorem compare_eq_lt_of_text_lt (hle : ((number x).compare (number y)).isLE)
    (hlt : numberText y < numberText x) : x.compare y = .lt := by
  cases hxy : x.compare y with
  | lt => rfl
  | eq =>
    have hkey : x.orderKey = y.orderKey := Std.LawfulEqCmp.eq_of_compare hxy
    rw [Double.orderKey_inj hkey] at hlt
    exact absurd hlt (String.lt_irrefl _)
  | gt =>
    have hgt : (number x).compare (number y) = .gt := hxy
    rw [hgt] at hle
    cases hle

/-! ## Comparing more of them -/

/-- Among the values are two numbers, and one that compares as text and stands between the greater
number and the smaller one. -/
def Torn (vs : List Value) : Prop :=
  ∃ x y v, number x ∈ vs ∧ number y ∈ vs ∧ v ∈ vs ∧ v.IsTextual ∧ x.compare y = .lt ∧
    numberText y ≤ v.toText ∧ v.toText ≤ numberText x

/-- **Values that are not torn** can be chained. A chain of numbers alone, or one with a single
number, is told by one of the rules; the cases left are those of two numbers and a text. -/
theorem orderly_of_not_torn (h : ¬ Torn vs) : Orderly vs := by
  intro a ha b hb c hc hab hbc
  by_cases hanull : a = null
  · rw [hanull]
    exact null_isLE c
  have hbnull : b ≠ null := fun hnull => hanull (isLE_null_iff.1 (hnull ▸ hab))
  have hcnull : c ≠ null := fun hnull => hbnull (isLE_null_iff.1 (hnull ▸ hbc))
  rcases a.cases_rule.resolve_left hanull with ⟨x, rfl⟩ | hat
  · rcases b.cases_rule.resolve_left hbnull with ⟨y, rfl⟩ | hbt
    · rcases c.cases_rule.resolve_left hcnull with ⟨z, rfl⟩ | hct
      · have hxy : (Ord.compare x.orderKey y.orderKey).isLE := hab
        have hyz : (Ord.compare y.orderKey z.orderKey).isLE := hbc
        have hxz : (Ord.compare x.orderKey z.orderKey).isLE := Std.TransCmp.isLE_trans hxy hyz
        exact hxz
      · rw [isLE_textual_of hbnull hct] at hbc
        rw [isLE_textual_of hanull hct]
        by_contra hnot
        have hlt : c.toText < numberText x := String.not_le.1 hnot
        have hxy := compare_eq_lt_of_text_lt hab (Std.lt_of_le_of_lt hbc hlt)
        exact h ⟨x, y, c, ha, hb, hc, hct, hxy, hbc, Std.le_of_lt hlt⟩
    · rw [isLE_textual_of hanull hbt] at hab
      rw [isLE_of_textual hbt hcnull] at hbc
      rcases c.cases_rule.resolve_left hcnull with ⟨z, rfl⟩ | hct
      · by_contra hnot
        exact h ⟨z, x, b, hc, ha, hb, hbt, not_isLE_iff.1 hnot, hab, hbc⟩
      · rw [isLE_textual_of hanull hct]
        exact String.le_trans hab hbc
  · rw [isLE_of_textual hat hbnull] at hab
    rw [isLE_of_textual hat hcnull]
    rcases b.cases_rule.resolve_left hbnull with ⟨y, rfl⟩ | hbt
    · rcases c.cases_rule.resolve_left hcnull with ⟨z, rfl⟩ | hct
      · by_contra hnot
        have hlt : numberText z < a.toText := String.not_le.1 hnot
        have hyz := compare_eq_lt_of_text_lt hbc (Std.lt_of_lt_of_le hlt hab)
        exact h ⟨y, z, a, hb, hc, ha, hat, hyz, Std.le_of_lt hlt, hab⟩
      · rw [isLE_textual_of hbnull hct] at hbc
        exact String.le_trans hab hbc
    · rw [isLE_of_textual hbt hcnull] at hbc
      exact String.le_trans hab hbc

theorem orderly_iff_not_torn : Orderly vs ↔ ¬ Torn vs := by
  refine ⟨?_, orderly_of_not_torn⟩
  rintro h ⟨x, y, v, hx, hy, hv, hvt, hxy, hyv, hvx⟩
  have hyv := (isLE_textual_of (number_ne_null y) hvt).2 hyv
  have hvx := (isLE_of_textual hvt (number_ne_null x)).2 hvx
  have hnot : ¬ ((number y).compare (number x)).isLE := not_isLE_iff.2 hxy
  exact hnot (h _ hy v hv _ hx hyv hvx)

/-! ## Sorting -/

/-- Whether a value may stand before another one where the last ones come first. -/
def Behind (key : Value → Value) (u v : Value) : Prop :=
  ((key v).compare (key u)).isLE

instance (key : Value → Value) : DecidableRel (Behind key) := fun u v =>
  inferInstanceAs (Decidable (((key v).compare (key u)).isLE = true))

theorem insertSorted_eq (entry : Value × Value) (sorted : List (Value × Value)) :
    insertSorted entry sorted =
      sorted.orderedInsert (fun e f => (f.1.compare e.1).isLE) entry := by
  induction sorted with
  | nil => rfl
  | cons last earlier ih =>
    rw [insertSorted, List.orderedInsert_cons, ih]
    by_cases hlt : entry.1.compare last.1 = .lt
    · rw [if_pos hlt, if_neg (not_isLE_iff.2 hlt)]
    · rw [if_neg hlt, if_pos (not_not.1 fun hnot => hlt (not_isLE_iff.1 hnot))]

/-- **Sorting is insertion**, one value after the other, into what was sorted before. -/
theorem insertedBy_eq (key : Value → Value) (vs : List Value) :
    insertedBy key vs = (vs.reverse.insertionSort (Behind key)).reverse := by
  have hentries : vs.foldl (fun sorted v => insertSorted (key v, v) sorted) [] =
      (vs.reverse.map fun v => (key v, v)).insertionSort fun e f => (f.1.compare e.1).isLE := by
    simp only [insertSorted_eq]
    rw [List.foldl_eq_foldr_reverse, List.insertionSort, List.foldr_map]
  have hvalues := List.map_insertionSort (fun e f => (f.1.compare e.1).isLE) (Behind key) (·.2)
    (vs.reverse.map fun v => (key v, v)) (by
      intro e he f hf
      obtain ⟨u, -, rfl⟩ := List.mem_map.1 he
      obtain ⟨w, -, rfl⟩ := List.mem_map.1 hf
      exact Iff.rfl)
  rw [List.map_map] at hvalues
  rw [insertedBy, inserted, List.foldl_map, hentries, List.map_reverse, hvalues]
  exact congrArg (fun vs => (vs.insertionSort (Behind key)).reverse) (List.map_id _)

theorem perm_insertedBy (key : Value → Value) (vs : List Value) : (insertedBy key vs).Perm vs := by
  rw [insertedBy_eq]
  exact (List.reverse_perm _).trans ((List.perm_insertionSort _ _).trans (List.reverse_perm _))

/-- **Values stay as they come** where their keys are in order. -/
theorem sublist_insertedBy {some : List Value} (hsome : some.Sublist vs)
    (hkeys : some.Pairwise fun u v => ((key u).compare (key v)).isLE) :
    some.Sublist (insertedBy key vs) := by
  rw [insertedBy_eq, ← List.reverse_sublist, List.reverse_reverse]
  exact List.sublist_insertionSort (List.pairwise_reverse.2 hkeys) (List.reverse_sublist.2 hsome)

/-- **The keys of sorted values are in order**, if they can be chained at all. -/
theorem pairwise_insertedBy (h : Orderly (vs.map key)) :
    (insertedBy key vs).Pairwise fun u v => ((key u).compare (key v)).isLE := by
  -- among the values that there are, the order is transitive
  let Member := { v // v ∈ vs.reverse }
  let behind : Member → Member → Prop := fun u v => Behind key u v
  have hmem (u : Member) : key u ∈ vs.map key :=
    List.mem_map_of_mem (List.mem_reverse.1 u.2)
  have : Std.Total behind := ⟨fun u v => isLE_total (key v) (key u)⟩
  have : IsTrans Member behind :=
    ⟨fun u v w huv hvw => h _ (hmem w) _ (hmem v) _ (hmem u) hvw huv⟩
  have hsorted := List.pairwise_insertionSort behind vs.reverse.attach
  have hmap := List.map_insertionSort behind (Behind key) Subtype.val vs.reverse.attach
    fun _ _ _ _ => Iff.rfl
  rw [List.attach_map_subtype_val] at hmap
  rw [insertedBy_eq, List.pairwise_reverse, ← hmap]
  exact List.pairwise_map.2 hsorted

/-- Three values that come first stay in their order if each of them is up to the next one. -/
theorem sublist_insertedBy_of_chain {u v w : Value} {rest : List Value}
    (huv : ((key u).compare (key v)).isLE) (hvw : ((key v).compare (key w)).isLE) :
    [u, v, w].Sublist (insertedBy key ([u, v, w] ++ rest)) := by
  have hfirst : [w, v, u].insertionSort (Behind key) = [w, v, u] := by
    have huv : Behind key v u := huv
    have hvw : Behind key w v := hvw
    simp [huv, hvw]
  have hrest (later : List Value) :
      [w, v, u].Sublist ((later ++ [w, v, u]).insertionSort (Behind key)) := by
    induction later with
    | nil => rw [List.nil_append, hfirst]
    | cons x later ih => exact ih.trans (List.sublist_orderedInsert x _)
  rw [insertedBy_eq, ← List.reverse_sublist, List.reverse_reverse, List.reverse_append]
  exact hrest rest.reverse

/-- In some order of torn values, insertion leaves a greater number in front of a smaller one. -/
theorem exists_perm_of_torn (h : Torn (vs.map key)) :
    ∃ ws, ws.Perm vs ∧
      ¬ (insertedBy key ws).Pairwise fun u v => ((key u).compare (key v)).isLE := by
  obtain ⟨x, y, k, hx, hy, hk, hkt, hxy, hyk, hkx⟩ := h
  obtain ⟨u, hu, hukey⟩ := List.mem_map.1 hy
  obtain ⟨v, hv, rfl⟩ := List.mem_map.1 hk
  obtain ⟨w, hw, hwkey⟩ := List.mem_map.1 hx
  have huv : ((key u).compare (key v)).isLE := by
    rw [hukey]
    exact (isLE_textual_of (number_ne_null y) hkt).2 hyk
  have hvw : ((key v).compare (key w)).isLE := by
    rw [hwkey]
    exact (isLE_of_textual hkt (number_ne_null x)).2 hkx
  have hwu : ¬ ((key u).compare (key w)).isLE := by
    rw [hukey, hwkey]
    exact not_isLE_iff.2 hxy
  -- they are three values, for their keys are not the same
  have hnodup : [u, v, w].Nodup := by
    have hne : u ≠ v ∧ u ≠ w ∧ v ≠ w := by
      refine ⟨?_, ?_, ?_⟩
      · rintro rfl
        rw [hukey] at hkt
        cases hkt.2
      · rintro rfl
        rw [compare_self] at hwu
        exact hwu rfl
      · rintro rfl
        rw [hwkey] at hkt
        cases hkt.2
    simp [hne]
  -- in front of all others they keep their order, with the greater number first
  have hsubset : [u, v, w] ⊆ vs := by simp [hu, hv, hw]
  obtain ⟨three, hthree, hsub⟩ := hnodup.subperm hsubset
  obtain ⟨rest, hrest⟩ := hsub.exists_perm_append
  refine ⟨[u, v, w] ++ rest, ((hthree.symm.append_right rest).trans hrest.symm), fun hall => ?_⟩
  have hpair := hall.sublist (sublist_insertedBy_of_chain huv hvw)
  exact hwu ((List.pairwise_cons.1 hpair).1 w (by simp))

/-! ## Values that no order puts right -/

/-- Among the values are three, each of which comes before the next one, and the last before the
first. -/
def Circular (vs : List Value) : Prop :=
  ∃ a ∈ vs, ∃ b ∈ vs, ∃ c ∈ vs, a.compare b = .lt ∧ b.compare c = .lt ∧ c.compare a = .lt

/-- **Circular values are never in order.** Whichever of the three comes first, the one before it in
the circle is behind it. -/
theorem not_pairwise_of_circular (h : Circular vs) :
    ¬ vs.Pairwise fun a b => (a.compare b).isLE := by
  obtain ⟨a, ha, b, hb, c, hc, hab, hbc, hca⟩ := h
  have hne {u v : Value} (huv : u.compare v = .lt) : u ≠ v := by
    rintro rfl
    rw [compare_self] at huv
    cases huv
  intro hall
  induction vs with
  | nil => cases ha
  | cons first rest ih =>
    obtain ⟨hfirst, hrest⟩ := List.pairwise_cons.1 hall
    -- nothing that comes before the first value in the order is behind it
    have hnot {u : Value} (hu : u ∈ first :: rest) : u.compare first ≠ .lt := by
      intro hlt
      have hmem := (List.mem_cons.1 hu).resolve_left (hne hlt)
      exact not_isLE_iff.2 hlt (hfirst u hmem)
    have hbehind {u v : Value} (hu : u ∈ first :: rest) (hv : v ∈ first :: rest)
        (huv : u.compare v = .lt) : v ∈ rest := by
      refine (List.mem_cons.1 hv).resolve_left ?_
      rintro rfl
      exact hnot hu huv
    exact ih (hbehind hc ha hca) (hbehind ha hb hab) (hbehind hb hc hbc) hrest

/-! ## What sorting comes to -/

/-- Values are sorted, and their keys are in order then. -/
def SortsRight [Sorting] (key : Value → Value) (vs : List Value) : Prop :=
  ∃ sorted, sortBy key vs = some sorted ∧
    sorted.Pairwise fun u v => ((key u).compare (key v)).isLE

/-- **Values can be sorted if they are not torn.** Every value is equal to itself in the order, and
turning two values round turns their comparison round; the comparisons of some values can be chained
exactly if these are not torn. If the keys of some values are not torn, sorting puts them in order,
however the values come. Where there are few values, it does so for no others; and where there are
more, at least circular keys are not in order whatever is made of them. -/
theorem sorts_iff_not_torn [Sorting] (key : Value → Value) (vs : List Value) :
    (∀ a : Value, a.compare a = .eq) ∧ (∀ a b : Value, a.compare b = (b.compare a).swap) ∧
    (Orderly vs ↔ ¬ Torn vs) ∧
    (¬ Torn (vs.map key) → ∀ ws : List Value, ws.Perm vs → SortsRight key ws) ∧
    (vs.length ≤ Sorting.shortLength →
      ((∀ ws : List Value, ws.Perm vs → SortsRight key ws) ↔ ¬ Torn (vs.map key))) ∧
    (Circular (vs.map key) → ∀ ws : List Value, ws.Perm vs → ¬ SortsRight key ws) := by
  have hright : ¬ Torn (vs.map key) → ∀ ws : List Value, ws.Perm vs → SortsRight key ws := by
    intro hnot ws hperm
    have horderly : Orderly (ws.map key) := fun a ha b hb c hc =>
      have hmem {k : Value} (hk : k ∈ ws.map key) : k ∈ vs.map key := (hperm.map key).subset hk
      orderly_of_not_torn hnot a (hmem ha) b (hmem hb) c (hmem hc)
    exact ⟨_, sortBy_of_orderly horderly, pairwise_insertedBy horderly⟩
  refine ⟨compare_self, compare_swap, orderly_iff_not_torn, hright,
    fun hshort => ⟨fun hall htorn => ?_, hright⟩, fun hcircular ws hperm => ?_⟩
  · obtain ⟨ws, hperm, hnot⟩ := exists_perm_of_torn htorn
    obtain ⟨sorted, hsorted, hpairwise⟩ := hall ws hperm
    rw [sortBy_of_short (by rwa [hperm.length_eq])] at hsorted
    cases hsorted
    exact hnot hpairwise
  · rintro ⟨sorted, hsorted, hpairwise⟩
    -- sorting changes no more than the places, and the circle is there in any order
    have hkeys := ((perm_of_sortBy hsorted).trans hperm).map key
    obtain ⟨a, ha, b, hb, c, hc, hcircle⟩ := hcircular
    exact not_pairwise_of_circular
      ⟨a, hkeys.mem_iff.2 ha, b, hkeys.mem_iff.2 hb, c, hkeys.mem_iff.2 hc, hcircle⟩
      (List.pairwise_map.2 hpairwise)

/-- The numbers 9 and 10 and the text `10`, which stands behind 10 and before 9. -/
theorem not_sorted_of_text_between :
    let source : Source :=
      { document := Document.parse "snapshot.txt" 0
          "\n\n\n\n\n\n\n\nlineNum\nlineNum\n10 match\n" }
    let sorted : List Value := [.ofNat 9, .ofNat 10, .text "10"]
    source.execute
        "(sort (map (grep \"^\\S+\") (lambda (m) (get m (match m \"([a-zA-Z]+)$\" 1)))))" .empty =
      .ok (.list sorted) ∧
    ¬ sorted.Pairwise (fun u v => (u.compare v).isLE) ∧ ¬ Orderly sorted := by
  intro source sorted
  have hten : (ofNat 10).compare (.text "10") = .eq := rfl
  have htext : (Value.text "10").compare (ofNat 9) = .lt := rfl
  have hnine : ¬ ((ofNat 9).compare (.text "10")).isLE := not_isLE_iff.2 htext
  have hback : ¬ ((ofNat 10).compare (ofNat 9)).isLE := by decide
  refine ⟨rfl, fun hall => ?_, fun horderly => ?_⟩
  · exact hnine ((List.pairwise_cons.1 hall).1 _ (by simp))
  · refine hback (horderly (ofNat 10) ?_ (.text "10") ?_ (ofNat 9) ?_ ?_ ?_)
    · simp [sorted]
    · simp [sorted]
    · simp [sorted]
    · rw [hten]; rfl
    · rw [htext]; rfl

end Value

end CodeSnapshot

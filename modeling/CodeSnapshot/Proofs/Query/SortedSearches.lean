import CodeSnapshot.Proofs.Decimal.WholeNumbers
import CodeSnapshot.Proofs.Query.SearchPages
import CodeSnapshot.Proofs.Query.ValueOrder

/-!
# Sorted searches — the matches of a search, in the order of a field

A command can sort what a search finds by a field of the matches, and take the first ones of that.
The values of one field are all numbers or none of them is, so they can always be sorted.

* **`IsSorting`** — the same values, in the order of their keys, and in their old order where the
  keys are equal; `isSorting_insertedBy` for all keys that can be sorted at all.
* **`orderly_fields`** — a field of matches can be sorted.
* **`eval_search`**, **`eval_sort`**, **`eval_take`** — each operator, given the values of its
  arguments.
* **`searches_sorted`** — the headline, for all documents, patterns, flags, fields and numbers.
-/

namespace CodeSnapshot

namespace Value

variable {key : Value → Value} {vs : List Value}

/-! ## Sorted values -/

/-- Some values in the order of their keys, each group of equal keys in its old order. -/
structure IsSorting (key : Value → Value) (vs sorted : List Value) : Prop where
  perm : sorted.Perm vs
  ordered : sorted.Pairwise fun u v => ((key u).compare (key v)).isLE
  stable : ∀ v ∈ vs, sorted.filter (fun w => (key w).compare (key v) = .eq) =
    vs.filter fun w => (key w).compare (key v) = .eq

theorem insertedBy_eq_self (h : vs.Pairwise fun u v => ((key u).compare (key v)).isLE) :
    insertedBy key vs = vs :=
  have hsub : vs.Sublist (insertedBy key vs) := sublist_insertedBy (List.Sublist.refl vs) h
  (hsub.eq_of_length (perm_insertedBy key vs).length_eq.symm).symm

theorem filter_insertedBy (h : Orderly (vs.map key)) {v : Value} (hv : v ∈ vs) :
    (insertedBy key vs).filter (fun w => (key w).compare (key v) = .eq) =
      vs.filter fun w => (key w).compare (key v) = .eq := by
  have hkeys : (vs.filter fun w => (key w).compare (key v) = .eq).Pairwise
      fun u w => ((key u).compare (key w)).isLE := by
    apply List.pairwise_of_forall_mem_list
    intro u hu w hw
    obtain ⟨hu, huv⟩ := List.mem_filter.1 hu
    obtain ⟨hw, hwv⟩ := List.mem_filter.1 hw
    have huv : (key u).compare (key v) = .eq := of_decide_eq_true huv
    have hvw : (key v).compare (key w) = .eq := by
      rw [compare_swap, of_decide_eq_true hwv]
      rfl
    have hmem {x : Value} (hx : x ∈ vs) : key x ∈ vs.map key := List.mem_map_of_mem hx
    refine h _ (hmem hu) _ (hmem hv) _ (hmem hw) ?_ ?_
    · rw [huv]
      rfl
    · rw [hvw]
      rfl
  -- the values with this key are found in the result in the same order, and there are no others
  have hsub := (sublist_insertedBy List.filter_sublist hkeys).filter
    fun w => decide ((key w).compare (key v) = .eq)
  rw [List.filter_filter] at hsub
  simp only [Bool.and_self] at hsub
  exact (hsub.eq_of_length ((perm_insertedBy key vs).filter _).length_eq.symm).symm

theorem isSorting_insertedBy (h : Orderly (vs.map key)) :
    IsSorting key vs (insertedBy key vs) where
  perm := perm_insertedBy key vs
  ordered := pairwise_insertedBy h
  stable _ hv := filter_insertedBy h hv

/-! ## Fields of matches -/

/-- The fields that a match has. -/
def hitFieldNames : List String :=
  ["match", "line", "lineNum", "index", "groups"]

variable {name : String}

theorem hitField_of_unknown (h : name ∉ hitFieldNames) (m : Hit) : hitField m name = null := by
  simp only [hitFieldNames, List.mem_cons, List.not_mem_nil, not_or] at h
  simp [hitField, h]

/-- A field is a number in every match, or in none. -/
theorem hitField_number? (name : String) :
    (∀ m, (hitField m name).number? = none) ∨ (∀ m, (hitField m name).number? ≠ none) := by
  by_cases hnumber : name = "lineNum" ∨ name = "index"
  · right
    intro m
    rcases hnumber with rfl | rfl
    · exact nofun
    · exact nofun
  · left
    intro m
    obtain ⟨hline, hindex⟩ := not_or.1 hnumber
    unfold hitField
    rw [if_neg hline, if_neg hindex]
    split
    · rfl
    · split
      · rfl
      · split
        · rfl
        · rfl

/-- **A field of matches can be sorted.** -/
theorem orderly_fields (hits : List Hit) (name : String) :
    Orderly ((hits.map hit).map (·.field name)) := by
  apply orderly_of_not_torn
  rintro ⟨x, y, v, hx, -, hv, hvt, -⟩
  rw [List.map_map] at hx hv
  obtain ⟨m, -, hm⟩ := List.mem_map.1 hx
  obtain ⟨n, -, rfl⟩ := List.mem_map.1 hv
  have hm : hitField m name = number x := hm
  rcases hitField_number? name with hnone | hsome
  · have hnumber := hnone m
    rw [hm] at hnumber
    cases hnumber
  · exact hsome n hvt.2

theorem insertedBy_of_unknown (h : name ∉ hitFieldNames) (hits : List Hit) :
    insertedBy (·.field name) (hits.map hit) = hits.map hit := by
  apply insertedBy_eq_self
  apply List.pairwise_of_forall_mem_list
  intro u hu v hv
  obtain ⟨m, -, rfl⟩ := List.mem_map.1 hu
  obtain ⟨n, -, rfl⟩ := List.mem_map.1 hv
  show ((hitField m name).compare (hitField n name)).isLE
  rw [hitField_of_unknown h, hitField_of_unknown h]
  rfl

end Value

/-! ## Commands -/

namespace Expr

theorem startsNumeric_int (n : Int) : startsNumeric (toString n).toList = true := by
  have hdigits (m : Nat) : ∃ c rest, Nat.toDigits 10 m = c :: rest ∧ Decimal.isDigit c = true := by
    obtain ⟨c, rest, h⟩ := List.exists_cons_of_ne_nil (Nat.toDigits_ne_nil (n := m) (b := 10))
    refine ⟨c, rest, h, Decimal.isDigit_of_mem_toDigits (m := m) ?_⟩
    rw [h]
    exact List.mem_cons_self
  cases n with
  | ofNat m =>
    obtain ⟨c, rest, h, hc⟩ := hdigits m
    rw [Decimal.toList_ofNat, h]
    unfold startsNumeric
    split
    · next heq =>
      obtain ⟨rfl, -⟩ := List.cons.inj heq
      cases hc
    · next heq =>
      obtain ⟨rfl, -⟩ := List.cons.inj heq
      exact hc
    · next heq => cases heq
  | negSucc m =>
    obtain ⟨c, rest, h, hc⟩ := hdigits (m + 1)
    rw [Decimal.toList_negSucc, h]
    exact hc

/-- The atom of an integer is the number nearest to it. -/
theorem ofAtom_int (n : Int) : ofAtom (toString n).toList = number (Double.ofInt n) := by
  rw [ofAtom, if_pos (startsNumeric_int n), Double.ofText?_int]

end Expr

namespace Source

variable [Regexes] [Sorting] {s : Source} {scope : Scope} {e pattern flags name count : Expr}
  {patternText flagsText field : String} {set : Pattern.Flags} {r : Regex}
  {items sorted : List Value} {x : Double}

theorem eval_search (hpattern : Evaluated.text .grep (s.eval pattern scope) = .ok patternText)
    (hflags : Evaluated.text .grep (s.eval flags scope) = .ok flagsText)
    (hset : grepFlags flagsText.toList = .ok set)
    (hr : Source.pattern .grep patternText set = .ok r) :
    s.eval (.list [.symbol "grep", pattern, flags]) scope =
      .ok (.list (((s.document.lines.hits r).take s.maxHits).map .hit)) := by
  have heval : s.eval (.list [.symbol "grep", pattern, flags]) scope =
      (Evaluated.text .grep (s.eval pattern scope)).bind fun pattern =>
        (Evaluated.text .grep (s.eval flags scope)).bind fun flags => s.grep pattern flags := rfl
  rw [heval, hpattern]
  show (Evaluated.text .grep (s.eval flags scope)).bind (fun flags => s.grep patternText flags) = _
  rw [hflags]
  exact grep_of_pattern hset hr

theorem eval_sort (he : s.eval e scope = .ok (.list items))
    (hname : Evaluated.text .sort (s.eval name scope) = .ok field)
    (hsorted : Value.sortBy (·.field field) items = some sorted) :
    s.eval (.list [.symbol "sort", e, name]) scope = .ok (.list sorted) := by
  have heval : s.eval (.list [.symbol "sort", e, name]) scope =
      (Evaluated.items .sort (s.eval e scope)).bind fun items =>
        (Evaluated.text .sort (s.eval name scope)).bind fun key =>
          Source.sorted (some key) items := rfl
  rw [heval, he, hname]
  show Source.sorted (some field) items = _
  rw [Source.sorted, show keyOf (some field) = (·.field field) from rfl, hsorted]

theorem eval_take (he : s.eval e scope = .ok (.list items))
    (hcount : Evaluated.number .take (s.eval count scope) = .ok x) :
    s.eval (.list [.symbol "take", e, count]) scope = .ok (.list (items.take x.toNat)) := by
  have heval : s.eval (.list [.symbol "take", e, count]) scope =
      (Evaluated.items .take (s.eval e scope)).bind fun items =>
        (Evaluated.number .take (s.eval count scope)).map fun n =>
          .list (items.take n.toNat) := rfl
  rw [heval, he, hcount]
  rfl

end Source

/-- **Sorted searches.** What a search finds can be sorted by any field: the same matches come in
the order of the field, those with equal fields in the order in which they were found, and a field
that matches do not have changes nothing. The first `n` of the sorted matches are taken from them,
for every integer, however it is written; only if there were more than 2^53 matches could a number
as large as that stand for another one. -/
theorem searches_sorted [Regexes] [Sorting] {s : Source} {scope : Scope}
    {pattern flags name : Expr} {patternText flagsText field : String} {set : Pattern.Flags}
    {r : Regex}
    (hpattern : Evaluated.text .grep (s.eval pattern scope) = .ok patternText)
    (hflags : Evaluated.text .grep (s.eval flags scope) = .ok flagsText)
    (hset : Source.grepFlags flagsText.toList = .ok set)
    (hr : Source.pattern .grep patternText set = .ok r)
    (hname : Evaluated.text .sort (s.eval name scope) = .ok field) :
    let search := Expr.list [.symbol "grep", pattern, flags]
    let sort := Expr.list [.symbol "sort", search, name]
    ∃ found sorted,
      found = ((s.document.lines.hits r).take s.maxHits).map .hit ∧
      s.eval search scope = .ok (.list found) ∧ s.eval sort scope = .ok (.list sorted) ∧
      Value.IsSorting (·.field field) found sorted ∧
      (field ∉ Value.hitFieldNames → sorted = found) ∧
      (∀ n : Int, Expr.ofAtom (toString n).toList = .number (Double.ofInt n)) ∧
      ∀ (count : Expr) (n : Int),
        Evaluated.number .take (s.eval count scope) = .ok (Double.ofInt n) →
        (n < 2 ^ 53 ∨ found.length ≤ 2 ^ 53) →
        s.eval (.list [.symbol "take", sort, count]) scope = .ok (.list (sorted.take n.toNat)) := by
  intro search sort
  have hsearch := Source.eval_search hpattern hflags hset hr
  have horderly := Value.orderly_fields ((s.document.lines.hits r).take s.maxHits) field
  have hsort := Source.eval_sort hsearch hname (Value.sortBy_of_orderly horderly)
  refine ⟨_, _, rfl, hsearch, hsort, ?_, ?_, Expr.ofAtom_int, fun count n hcount hn => ?_⟩
  · exact Value.isSorting_insertedBy horderly
  · exact fun hunknown => Value.insertedBy_of_unknown hunknown _
  · rw [Source.eval_take hsort hcount, Double.take_toNat_ofInt]
    rw [(Value.perm_insertedBy _ _).length_eq]
    exact hn

/-- Three matches, two of them with the same text. -/
theorem searches_sorted_of_three_lines :
    let s : Source := { document := Document.parse "snapshot.txt" 0 "b 1\na\nb 2\n" }
    let scope := Scope.root .empty
    let search := Expr.list [.symbol "grep", .text "[ab]", .text "g"]
    let sort := Expr.list [.symbol "sort", search, .symbol "match"]
    let first : Value := .hit ⟨"b", "b 1", 1, 0, []⟩
    let second : Value := .hit ⟨"a", "a", 2, 4, []⟩
    let third : Value := .hit ⟨"b", "b 2", 3, 6, []⟩
    s.eval search scope = .ok (.list [first, second, third]) ∧
    s.eval sort scope = .ok (.list [second, first, third]) ∧
    Value.IsSorting (·.field "match") [first, second, third] [second, first, third] ∧
    s.eval (.list [.symbol "take", sort, .ofAtom "2".toList]) scope =
      .ok (.list [second, first]) ∧
    s.eval (.list [.symbol "take", sort, .ofAtom "-1".toList]) scope = .ok (.list []) := by
  intro s scope search sort first second third
  have hfound : ∃ r, Source.pattern .grep "[ab]" {} = .ok r ∧
      ((s.document.lines.hits r).take s.maxHits).map .hit = [first, second, third] :=
    ⟨_, rfl, rfl⟩
  obtain ⟨r, hr, hfound⟩ := hfound
  obtain ⟨found, sorted, hhits, hsearch, hsort, hsorting, -, hatom, htake⟩ :=
    @searches_sorted _ _ s scope (.text "[ab]") (.text "g") (.symbol "match") "[ab]" "g" "match" {} r
      rfl rfl rfl hr rfl
  have hsorted : s.eval sort scope = .ok (.list [second, first, third]) := by rfl
  obtain rfl := hhits.trans hfound
  obtain rfl := Value.list.inj (Except.ok.inj (hsort.symm.trans hsorted))
  refine ⟨hsearch, hsort, hsorting, htake _ 2 ?_ (.inl (by decide)),
    htake _ (-1) ?_ (.inl (by decide))⟩
  · exact congrArg (fun e => Evaluated.number .take (s.eval e scope)) (hatom 2)
  · exact congrArg (fun e => Evaluated.number .take (s.eval e scope)) (hatom (-1))

end CodeSnapshot

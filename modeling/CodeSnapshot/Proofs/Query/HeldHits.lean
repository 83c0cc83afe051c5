import CodeSnapshot.Proofs.Document.HitScans
import CodeSnapshot.Proofs.Sorted.MapLookup
import CodeSnapshot.Query.Eval

/-!
# Held matches — the matches inside the values of a session

Matches are made in two places only, by a search and by reading lines. All other operators hand on
what they were given, take parts of it, or make values without matches. So whatever holds of the
matches that are made holds of every match inside any value.

* **`Value.Holds`** — a match somewhere inside a value; **`Value.AllHits`** — a condition on all of
  them, with one lemma for each kind of value and for what operators do with it.
* **`Gives`** — a condition on what a computation gives, if it gives anything; it goes through the
  ways in which computations are put together.
* **`Source.Makes`** — the condition for the two places where matches are made.
* **`allHits_eval`** — the headline, for all expressions and scopes; `allHits_execute` is the case of
  a command. `Bindings.AllHits` is what a session keeps from turn to turn.
-/

namespace CodeSnapshot

/-! ## What a computation gives -/

/-- What a computation gives satisfies a condition, if it gives anything. -/
def Gives {ε α : Type} (P : α → Prop) (r : Except ε α) : Prop :=
  ∀ a, r = .ok a → P a

namespace Gives

variable {ε α β : Type} {P : α → Prop} {Q : β → Prop} {r : Except ε α}

theorem ok {a : α} (h : P a) : Gives P (.ok a : Except ε α) := by
  rintro b ⟨⟩
  exact h

theorem error (e : ε) : Gives P (.error e : Except ε α) := nofun

theorem trivial (r : Except ε α) : Gives (fun _ => True) r := fun _ _ => True.intro

theorem bind {f : α → Except ε β} (h : Gives P r) (hf : ∀ a, P a → Gives Q (f a)) :
    Gives Q (r.bind f) := by
  cases r with
  | error e => exact error e
  | ok a => exact hf a (h a rfl)

theorem map {f : α → β} (h : Gives P r) (hf : ∀ a, P a → Q (f a)) : Gives Q (r.map f) := by
  cases r with
  | error e => exact error e
  | ok a => exact ok (hf a (h a rfl))

/-- The items of a list, one after the other. -/
theorem mapM {f : α → Except ε β} {as : List α} (hf : ∀ a ∈ as, Gives Q (f a)) :
    Gives (fun bs => ∀ b ∈ bs, Q b) (as.mapM f) := by
  induction as with
  | nil => exact ok nofun
  | cons a as ih =>
    rw [List.mapM_cons]
    refine bind (hf a (List.mem_cons_self ..)) fun b hb => ?_
    refine bind (ih fun a' ha' => hf a' (List.mem_cons_of_mem a ha')) fun bs hbs => ?_
    exact ok (List.forall_mem_cons.2 ⟨hb, hbs⟩)

end Gives

/-! ## Matches inside a value -/

namespace Value

/-- A match somewhere inside a value, at any depth of lists and records. -/
inductive Holds (h : Hit) : Value → Prop where
  | hit : Holds h (hit h)
  | item (items : List Value) (v : Value) (hv : v ∈ items) (inside : Holds h v) :
      Holds h (list items)
  | field (fields : List (String × Value)) (name : String) (v : Value)
      (hv : (name, v) ∈ fields) (inside : Holds h v) : Holds h (record fields)

/-- Every match inside a value satisfies a condition. -/
def AllHits (P : Hit → Prop) (v : Value) : Prop :=
  ∀ h, v.Holds h → P h

variable {P : Hit → Prop} {v : Value} {items : List Value}

theorem allHits_null : AllHits P null := nofun

theorem allHits_bool (b : Bool) : AllHits P (bool b) := nofun

theorem allHits_number (x : Double) : AllHits P (number x) := nofun

theorem allHits_text (s : String) : AllHits P (text s) := nofun

theorem allHits_ofNat (n : Nat) : AllHits P (ofNat n) := allHits_number _

theorem allHits_hit {h : Hit} (hP : P h) : AllHits P (hit h) := by
  rintro _ ⟨⟩
  exact hP

theorem allHits_list_iff : AllHits P (list items) ↔ ∀ v ∈ items, AllHits P v := by
  constructor
  · exact fun hall v hv h hin => hall h (.item items v hv hin)
  · intro hall h hin
    cases hin with
    | item _ v hv hin => exact hall v hv h hin

theorem allHits_record {fields : List (String × Value)} (hall : ∀ e ∈ fields, AllHits P e.2) :
    AllHits P (record fields) := by
  intro h hin
  cases hin with
  | field _ name v hv hin => exact hall _ hv h hin

theorem allHits_ofText? (s : Option String) : AllHits P (ofText? s) := by
  cases s with
  | none => exact allHits_null
  | some s => exact allHits_text s

/-- A field of a match holds no match, and one of a record is part of it. -/
theorem AllHits.field (hv : AllHits P v) (name : String) : AllHits P (v.field name) := by
  cases v with
  | hit m =>
    show AllHits P (hitField m name)
    rw [hitField]
    split
    · exact allHits_text _
    split
    · exact allHits_text _
    split
    · exact allHits_ofNat _
    split
    · exact allHits_ofNat _
    split
    · refine allHits_list_iff.2 fun v hv => ?_
      obtain ⟨group, -, rfl⟩ := List.mem_map.1 hv
      exact allHits_ofText? group
    · exact allHits_null
  | record fields =>
    show AllHits P (((fields.find? (·.1 == name)).map (·.2)).getD null)
    cases hfind : fields.find? (·.1 == name) with
    | none => exact allHits_null
    | some e =>
      exact fun h hin => hv h (.field fields e.1 e.2 (List.mem_of_find?_eq_some hfind) hin)
  | null | bool _ | number _ | text _ | list _ => exact allHits_null

end Value

open Value (AllHits)

/-! ## Scopes -/

variable {P : Hit → Prop}

/-- What every value of a session's bindings keeps. -/
def Bindings.AllHits (P : Hit → Prop) (b : Bindings) : Prop :=
  ∀ name v, b.get? name = some v → v.AllHits P

theorem Bindings.allHits_empty : Bindings.AllHits P .empty := nofun

theorem Bindings.AllHits.insert {b : Bindings} {name : String} {v : Value} (hb : b.AllHits P)
    (hv : v.AllHits P) : Bindings.AllHits P (b.insert name v) := by
  intro other w hw
  by_cases hother : other = name
  · rw [hother, StringMap.get?_insert_self] at hw
    cases hw
    exact hv
  · rw [StringMap.get?_insert_ne b v hother] at hw
    exact hb other w hw

theorem Bindings.AllHits.record {b : Bindings} {v : Value} (hb : b.AllHits P) (turn : Nat)
    (hv : v.AllHits P) : Bindings.AllHits P (b.record turn v) :=
  (hb.insert hv).insert hv

/-- What the values of all names of a scope keep. -/
structure Scope.AllHits (P : Hit → Prop) (s : Scope) : Prop where
  session : s.session.AllHits P
  params : ∀ e ∈ s.params, e.2.AllHits P

theorem Scope.AllHits.child {s : Scope} {v : Value} (hs : s.AllHits P) (name : String)
    (hv : v.AllHits P) : (s.child name v).AllHits P :=
  ⟨hs.session, List.forall_mem_cons.2 ⟨hv, hs.params⟩⟩

theorem Scope.AllHits.lookup? {s : Scope} {name : String} {v : Value} (hs : s.AllHits P)
    (h : s.lookup? name = some v) : v.AllHits P := by
  rw [Scope.lookup?] at h
  split at h
  · rename_i e hfind
    cases h
    exact hs.params _ (List.mem_of_find?_eq_some hfind)
  · exact hs.session name v h

/-! ## What operators do with values -/

namespace Evaluated

variable {op : Operator} {r : Evaluated}

theorem gives_items (h : Gives (AllHits P) r) :
    Gives (fun items => ∀ v ∈ items, v.AllHits P) (items op r) :=
  h.bind fun v hv => by
    cases v with
    | list items => exact .ok (Value.allHits_list_iff.1 hv)
    | null => exact .ok nofun
    | bool _ | number _ | text _ | hit _ | record _ => exact .error _

end Evaluated

namespace Source

/-- The matches that a source makes satisfy a condition: those of a regular expression, and whole
lines. -/
structure Makes (s : Source) (P : Hit → Prop) : Prop where
  hits : ∀ r, ∀ h ∈ s.document.lines.hits r, P h
  lines : ∀ first last i line, 1 ≤ first →
    (line, i) ∈ (s.document.lines.slice first last).zipIdx → P (lineHit (first + i) line)

variable {s : Source}

theorem Makes.grep [Regexes] (hs : s.Makes P) (text flags : String) :
    Gives (AllHits P) (s.grep text flags) := by
  refine (Gives.trivial (grepFlags flags.toList)).bind fun flags _ => ?_
  refine (Gives.trivial (pattern .grep text flags)).bind fun r _ => .ok ?_
  refine Value.allHits_list_iff.2 fun v hv => ?_
  obtain ⟨h, hh, rfl⟩ := List.mem_map.1 hv
  rw [Lines.firstHits, Lines.findHits_some] at hh
  exact Value.allHits_hit (hs.hits r h (List.mem_of_mem_take hh))

theorem Makes.lines_allHits (hs : s.Makes P) (first last : Double) :
    (s.lines first last).AllHits P := by
  refine Value.allHits_list_iff.2 fun v hv => ?_
  obtain ⟨⟨line, i⟩, hmem, rfl⟩ := List.mem_map.1 hv
  exact Value.allHits_hit (hs.lines _ _ i line (Nat.le_max_left ..) hmem)

theorem allHits_files (s : Source) : s.files.AllHits P := by
  refine Value.allHits_list_iff.2 fun v hv => ?_
  obtain ⟨⟨path, range⟩, -, rfl⟩ := List.mem_map.1 hv
  -- the three fields of a file are a text and two numbers
  have hfields : Bindings.AllHits P (StringMap.ofList
      [("path", .text path), ("start", .ofNat range.first), ("end", .ofNat range.last)]) :=
    ((Bindings.allHits_empty.insert (Value.allHits_text path)).insert
      (Value.allHits_ofNat _)).insert (Value.allHits_ofNat _)
  exact Value.allHits_record fun e he => hfields e.1 e.2 (StringMap.mem_entries_iff.1 he)

theorem allHits_groupOf (r : Regex) (subject : String) (group : Double) :
    (groupOf r subject group).AllHits P := by
  rw [groupOf]
  split
  · exact Value.allHits_null
  · exact Value.allHits_ofText? _

theorem allHits_fieldOf {v : Value} (hv : v.AllHits P) (name : String) :
    (fieldOf v name).AllHits P := by
  cases v with
  | list items =>
    refine Value.allHits_list_iff.2 fun w hw => ?_
    obtain ⟨v, hin, rfl⟩ := List.mem_map.1 hw
    exact (Value.allHits_list_iff.1 hv v hin).field name
  | null | bool _ | number _ | text _ | hit _ | record _ => exact hv.field name

/-- A filter keeps some of the items it is given. -/
theorem gives_keep {test : Value → Evaluated} {items : List Value}
    (hitems : ∀ v ∈ items, v.AllHits P) :
    Gives (fun kept => ∀ v ∈ kept, v.AllHits P) (keep test items) := by
  rw [keep]
  induction items with
  | nil => exact .ok nofun
  | cons v items ih =>
    obtain ⟨hv, hitems⟩ := List.forall_mem_cons.1 hitems
    rw [List.filterMapM_cons]
    refine (Gives.map (Gives.trivial (test v))
      (Q := fun kept => ∀ w, kept = some w → w.AllHits P) fun r _ => ?_).bind fun kept hkept => ?_
    · split
      · rintro w ⟨⟩
        exact hv
      · exact nofun
    · cases kept with
      | none => exact ih hitems
      | some w =>
        exact (ih hitems).bind fun kept hin => .ok (List.forall_mem_cons.2 ⟨hkept w rfl, hin⟩)

theorem allHits_getD_head? {items : List Value} (hitems : ∀ v ∈ items, v.AllHits P) :
    (items.head?.getD .null).AllHits P := by
  cases items with
  | nil => exact Value.allHits_null
  | cons v items => exact hitems v (List.mem_cons_self ..)

/-- Sorting adds no items. -/
theorem gives_sorted [Sorting] {items : List Value} (hitems : ∀ v ∈ items, v.AllHits P)
    (key : Option String) : Gives (AllHits P) (sorted key items) := by
  rw [sorted]
  cases hsorted : Value.sortBy (keyOf key) items with
  | none => exact .error _
  | some ws =>
    exact .ok (Value.allHits_list_iff.2 fun v hv =>
      hitems v ((Value.perm_of_sortBy hsorted).mem_iff.1 hv))

/-! ## Evaluation -/

section

variable [Regexes] [Sorting]

/-- **Every match inside the value of an expression** satisfies the condition, if those that the
source makes and those in the scope do. Induction along the evaluation; the cases of lambdas use that
the items, which become values of the parameter, satisfy it too. -/
theorem allHits_eval (hs : s.Makes P) (e : Expr) (scope : Scope) (hscope : scope.AllHits P) :
    Gives (AllHits P) (s.eval e scope) := by
  have hnone {α : Type} (r : Except QueryError α) := Gives.trivial r
  fun_induction eval s e scope with
  | case1 t => exact .ok (Value.allHits_text t)
  | case2 x => exact .ok (Value.allHits_number x)
  | case3 name scope =>
    refine .ok ?_
    cases hv : scope.lookup? name with
    | none => exact Value.allHits_text name
    | some v => exact hscope.lookup? hv
  | case4 | case5 | case11 | case12 | case26 | case27 => exact .error _
  -- searches
  | case6 scope name pattern hop ih => exact (hnone _).bind fun text _ => hs.grep text ""
  | case7 scope name pattern flags hop ihpattern ihflags =>
    exact (hnone _).bind fun text _ => (hnone _).bind fun flags _ => hs.grep text flags
  | case20 scope name first last hop ihfirst ihlast =>
    exact (hnone _).bind fun first _ => (hnone _).map fun last _ => hs.lines_allHits first last
  -- lambdas
  | case9 scope name x param body hop ihx ihbody =>
    refine (Evaluated.gives_items (ihx hscope)).bind fun items hitems => ?_
    refine Gives.map (Gives.mapM fun v hv => ?_) fun results => Value.allHits_list_iff.2
    exact ihbody v (hscope.child param (hitems v hv))
  | case10 scope name x param body hop ihx ihbody =>
    refine (Evaluated.gives_items (ihx hscope)).bind fun items hitems => ?_
    exact (gives_keep hitems).map fun kept => Value.allHits_list_iff.2
  -- parts of what was given
  | case13 scope name x hop ih =>
    exact (Evaluated.gives_items (ih hscope)).map fun items => allHits_getD_head?
  | case14 scope name x hop ih =>
    refine (Evaluated.gives_items (ih hscope)).map fun items hitems => ?_
    rw [← List.head?_reverse]
    exact allHits_getD_head? fun v hv => hitems v (List.mem_reverse.1 hv)
  | case15 scope name x n hop ihx ihn =>
    refine (Evaluated.gives_items (ihx hscope)).bind fun items hitems => ?_
    exact (hnone _).map fun n _ =>
      Value.allHits_list_iff.2 fun v hv => hitems v (List.mem_of_mem_take hv)
  | case16 scope name x hop ih =>
    exact (Evaluated.gives_items (ih hscope)).bind fun items hitems => gives_sorted hitems none
  | case17 scope name x key hop ihx ihkey =>
    refine (Evaluated.gives_items (ihx hscope)).bind fun items hitems => ?_
    exact (hnone _).bind fun key _ => gives_sorted hitems (some key)
  | case22 scope name x field hop ihx ihfield =>
    refine (ihx hscope).bind fun v hv => ?_
    exact (hnone _).map fun field _ => allHits_fieldOf hv field
  -- values without matches
  | case8 scope name x hop ih => exact (hnone _).map fun v _ => Value.allHits_ofNat _
  | case18 scope name x pattern hop ihx ihpattern =>
    exact (hnone _).bind fun v _ => (hnone _).bind fun text _ =>
      (hnone _).map fun r _ => allHits_groupOf r _ _
  | case19 scope name x pattern group hop ihx ihpattern ihgroup =>
    exact (hnone _).bind fun v _ => (hnone _).bind fun text _ => (hnone _).bind fun group _ =>
      (hnone _).map fun r _ => allHits_groupOf r _ group
  | case21 scope name hop => exact .ok (allHits_files s)
  | case23 scope name x hop ih => exact (hnone _).map fun items _ => Value.allHits_number _
  | case24 scope name x key hop ihx ihkey =>
    exact (hnone _).bind fun items _ => (hnone _).map fun key _ => Value.allHits_number _
  | case25 scope name x hop ih => exact (hnone _).map fun v _ => Value.allHits_bool _

/-- A command of a session. -/
theorem allHits_execute (hs : s.Makes P) (command : String) {session : Bindings}
    (hsession : session.AllHits P) : Gives (AllHits P) (s.execute command session) :=
  (Gives.trivial _).bind fun e _ => allHits_eval hs e _ ⟨hsession, nofun⟩

end

end Source

end CodeSnapshot

import CodeSnapshot.Proofs.Query.AppliedOperators

/-!
# Operator outcomes — refused, failed or given

An operator looks at what its arguments evaluate to, one after the other. It may refuse what it
sees; a failure among them is handed on unchanged; and if there is neither, it gives a value.

* **`WorksOn`** — these three outcomes; `WorksOn.first_failure` is what they say when something has
  failed.
* **`Looks`** — the ways to look at a result; `WorksOn.bind`, `WorksOn.last` and `WorksOn.map` put
  them together in the way operators are written.
* **`worksOn_apply`** — every operator with plain arguments; **`worksOn_overItems`** — a lambda over
  the items of a list.
-/

namespace CodeSnapshot

/-! ## Working on results -/

/-- What an operator makes of some results, one after the other: it refuses one of them, it gives a
value, or it hands on the first failure among them. -/
inductive WorksOn (op : Operator) : List Evaluated → Evaluated → Prop where
  | refused (before after : List Evaluated) (v : Value) (error : QueryError)
      (h : ∀ r ∈ before, ∃ w, r = .ok w) (herror : error.operator? = some op) :
      WorksOn op (before ++ .ok v :: after) (.error error)
  | gave (rs : List Evaluated) (v : Value) (h : ∀ r ∈ rs, ∃ w, r = .ok w) : WorksOn op rs (.ok v)
  | failed (before after : List Evaluated) (error : QueryError) (h : ∀ r ∈ before, ∃ w, r = .ok w) :
      WorksOn op (before ++ .error error :: after) (.error error)

theorem map_eq_bind {α β : Type} {r : Except QueryError α} (f : α → β) :
    r.map f = r.bind fun a => .ok (f a) := by
  cases r <;> rfl

/-- A computation that fails only because an operator refuses something. -/
def Refuses {α : Type} (op : Operator) (r : Except QueryError α) : Prop :=
  ∀ error, r = .error error → error.operator? = some op

/-- A way to look at a result that refuses some values and hands on a failure. -/
structure Looks {α : Type} (op : Operator) (look : Evaluated → Except QueryError α) : Prop where
  failure : ∀ error, look (.error error) = .error error
  refusal : ∀ v, Refuses op (look (.ok v))

namespace Looks

variable {op : Operator}

theorem whole : Looks op fun r => r :=
  ⟨fun _ => rfl, nofun⟩

theorem items : Looks op (Evaluated.items op) := by
  refine ⟨fun _ => rfl, fun v error h => ?_⟩
  cases v with
  | list | null => cases h
  | bool | number | text | hit | record =>
    cases h
    rfl

theorem text : Looks op (Evaluated.text op) := by
  refine ⟨fun _ => rfl, fun v error h => ?_⟩
  cases v with
  | text | number => cases h
  | null | bool | hit | list | record =>
    cases h
    rfl

theorem number : Looks op (Evaluated.number op) := by
  refine ⟨fun _ => rfl, fun v error h => ?_⟩
  cases v with
  | number => cases h
  | text t =>
    simp only [Evaluated.number, Except.bind] at h
    split at h
    · cases h
    · cases h
      rfl
  | null | bool | hit | list | record =>
    cases h
    rfl

end Looks

namespace WorksOn

variable {op : Operator} {r out : Evaluated} {rs : List Evaluated} {α : Type}
  {look : Evaluated → Except QueryError α}

theorem ok (v : Value) : WorksOn op [] (.ok v) :=
  .gave [] v nofun

theorem cons_ok (h : WorksOn op rs out) (v : Value) : WorksOn op (.ok v :: rs) out := by
  cases h with
  | refused before after w error h herror =>
    exact .refused (.ok v :: before) after w error (List.forall_mem_cons.2 ⟨⟨v, rfl⟩, h⟩) herror
  | gave rs w h => exact .gave _ w (List.forall_mem_cons.2 ⟨⟨v, rfl⟩, h⟩)
  | failed before after error h =>
    exact .failed (.ok v :: before) after error (List.forall_mem_cons.2 ⟨⟨v, rfl⟩, h⟩)

/-- One result more, in front of the others. -/
theorem bind (hlook : Looks op look) {f : α → Evaluated} (h : ∀ a, WorksOn op rs (f a)) :
    WorksOn op (r :: rs) ((look r).bind f) := by
  cases r with
  | error error =>
    rw [hlook.failure]
    exact .failed [] rs error nofun
  | ok v =>
    cases hv : look (.ok v) with
    | error error => exact .refused [] rs v error nofun (hlook.refusal v error hv)
    | ok a => exact (h a).cons_ok v

/-- The last result, when what comes of it may still be refused. -/
theorem last (hlook : Looks op look) {f : α → Evaluated} (hf : ∀ a, Refuses op (f a)) :
    WorksOn op [r] ((look r).bind f) := by
  cases r with
  | error error =>
    rw [hlook.failure]
    exact .failed [] [] error nofun
  | ok v =>
    cases hv : look (.ok v) with
    | error error => exact .refused [] [] v error nofun (hlook.refusal v error hv)
    | ok a =>
      rw [Except.bind]
      cases ha : f a with
      | error error => exact .refused [] [] v error nofun (hf a error ha)
      | ok w => exact (ok w).cons_ok v

/-- The last result, when nothing is refused any more. -/
theorem map (hlook : Looks op look) (f : α → Value) : WorksOn op [r] ((look r).map f) := by
  rw [map_eq_bind]
  exact last hlook fun a => nofun

/-- The first failure among results that begin with values. -/
theorem find_failure {before : List Evaluated} (after : List Evaluated) {error : QueryError}
    (h : ∀ r ∈ before, ∃ w, r = .ok w) :
    (before ++ .error error :: after).find? (! Except.isOk ·) = some (.error error) := by
  rw [List.find?_append, List.find?_eq_none.2 fun r hr => ?_]
  · rfl
  · obtain ⟨w, rfl⟩ := h r hr
    exact Bool.false_ne_true

theorem error_cases {error : QueryError} (h : WorksOn op rs (.error error)) :
    error.operator? = some op ∨ .error error ∈ rs := by
  cases h with
  | refused before after v error h herror => exact .inl herror
  | failed before after error h => exact .inr (List.mem_append_right _ List.mem_cons_self)

theorem first_failure {before after : List Evaluated} {error : QueryError}
    (h : WorksOn op (before ++ .error error :: after) out)
    (hbefore : ∀ r ∈ before, ∃ w, r = .ok w) :
    out = .error error ∨
      before ≠ [] ∧ ∃ other, other.operator? = some op ∧ out = .error other := by
  have herror : .error error ∈ before ++ .error error :: after :=
    List.mem_append_right _ List.mem_cons_self
  have hfirst : (before ++ .error error :: after).find? (! Except.isOk ·) = some (.error error) :=
    find_failure after hbefore
  generalize hrs : before ++ .error error :: after = rs at h herror hfirst
  cases h with
  | refused before' after' v other h hop =>
    refine .inr ⟨?_, other, hop, rfl⟩
    rintro rfl
    cases before' with
    | nil => cases hrs
    | cons r before' =>
      cases hrs
      obtain ⟨w, hw⟩ := h _ List.mem_cons_self
      cases hw
  | gave rs v h =>
    obtain ⟨w, hw⟩ := h _ herror
    cases hw
  | failed before' after' other h =>
    rw [find_failure after' h] at hfirst
    cases hfirst
    exact .inl rfl

end WorksOn

namespace Source

variable {op : Operator}

/-! ## Operators -/

theorem refuses_pattern [Regexes] (text : String) (flags : Pattern.Flags) :
    Refuses op (pattern op text flags) := by
  intro error h
  rw [pattern] at h
  cases hcompiled : Regexes.compile flags text with
  | ok r =>
    rw [hcompiled] at h
    cases h
  | error detail =>
    rw [hcompiled] at h
    cases h
    rfl

theorem refuses_foldlM {α β : Type} {f : β → α → Except QueryError β}
    (hf : ∀ b a, Refuses op (f b a)) (as : List α) (b : β) : Refuses op (as.foldlM f b) := by
  induction as generalizing b with
  | nil => exact nofun
  | cons a as ih =>
    intro error h
    rw [List.foldlM_cons] at h
    cases ha : f b a with
    | error other =>
      rw [ha] at h
      cases h
      exact hf b a error ha
    | ok b' =>
      rw [ha] at h
      exact ih b' error h

theorem refuses_grepFlags (letters : List Char) : Refuses .grep (grepFlags letters) := by
  refine refuses_foldlM (fun flags letter error h => ?_) letters _
  split at h
  all_goals cases h
  rfl

theorem refuses_bind {α β : Type} {c : Except QueryError α} {f : α → Except QueryError β}
    (hc : Refuses op c) (hf : ∀ a, Refuses op (f a)) : Refuses op (c.bind f) := by
  cases c with
  | error error =>
    intro other h
    cases h
    exact hc error rfl
  | ok a => exact hf a

theorem refuses_grep [Regexes] (s : Source) (text flags : String) : Refuses .grep (s.grep text flags) :=
  refuses_bind (refuses_grepFlags _) fun _ => refuses_bind (refuses_pattern _ _) fun _ => nofun

theorem refuses_groupOf [Regexes] (text : String) (f : Regex → Value) :
    Refuses op ((pattern op text {}).map f) := by
  rw [map_eq_bind]
  exact refuses_bind (refuses_pattern text {}) fun _ => nofun

theorem refuses_sorted [Sorting] (key : Option String) (items : List Value) :
    Refuses .sort (sorted key items) := by
  intro error h
  rw [sorted] at h
  split at h
  · cases h
  · cases h
    rfl

/-- **Every operator** that gets as many arguments as it takes works on what they evaluate to. -/
theorem worksOn_apply [Regexes] [Sorting] {rs : List Evaluated} (s : Source) (hop : op.isEach = false)
    (htakes : op.takes rs.length = true) : WorksOn op rs (s.apply op rs) := by
  fun_cases apply s op rs with
  | case1 pattern => exact .last .text fun text => s.refuses_grep text ""
  | case2 pattern flags =>
    exact .bind .text fun text => .last .text fun flags => s.refuses_grep text flags
  | case3 x => exact .map .whole _
  | case4 x | case5 x => exact .map .items _
  | case6 x n => exact .bind .items fun items => .map .number _
  | case7 x => exact .last .items fun items => refuses_sorted none items
  | case8 x key =>
    exact .bind .items fun items => .last .text fun key => refuses_sorted (some key) items
  | case9 x pattern =>
    exact .bind .whole fun v => .last .text fun text => refuses_groupOf text _
  | case10 x pattern group =>
    exact .bind .whole fun v => .bind .text fun text => .last .number fun group =>
      refuses_groupOf text _
  | case11 first last => exact .bind .number fun first => .map .number _
  | case12 => exact .ok _
  | case13 x name => exact .bind .whole fun v => .map .text _
  | case14 x => exact .map .items _
  | case15 x key => exact .bind .items fun items => .map .text _
  | case16 x => exact .map .whole _
  | case17 =>
    -- no other number of arguments is taken
    rcases rs with _ | ⟨_, _ | ⟨_, _ | ⟨_, _ | ⟨_, _⟩⟩⟩⟩
    all_goals cases op <;> simp_all [Operator.takes, Operator.isEach]

/-! ## Lambdas -/

/-- Every item is worked on, until one fails. -/
theorem worksOn_mapM (body : Value → Evaluated) (items : List Value) (f : List Value → Value) :
    WorksOn op (items.map body) ((items.mapM body).map f) := by
  induction items generalizing f with
  | nil => exact .ok (f [])
  | cons v items ih =>
    have hcons : ((v :: items).mapM body).map f =
        (body v).bind fun w => (items.mapM body).map fun ws => f (w :: ws) := by
      rw [List.mapM_cons]
      cases body v with
      | error error => rfl
      | ok w => cases items.mapM body <;> rfl
    rw [hcons]
    exact .bind .whole fun w => ih _

theorem keep_cons (body : Value → Evaluated) (v : Value) (items : List Value) :
    keep body (v :: items) = (body v).bind fun w =>
      (keep body items).map fun ws => if w.isTruthy then v :: ws else ws := by
  have hstep : keep body (v :: items) =
      ((body v).map fun w => if w.isTruthy then some v else none).bind fun kept =>
        (keep body items).map fun ws => kept.toList ++ ws := by
    rw [keep, List.filterMapM_cons]
    refine congrArg (Except.bind _) (funext fun kept => ?_)
    cases kept with
    | none => exact (congrFun Except.map_id _).symm
    | some w => rfl
  rw [hstep]
  cases body v with
  | error error => rfl
  | ok w =>
    simp only [Except.map, Except.bind]
    cases w.isTruthy <;> rfl

theorem worksOn_keep (body : Value → Evaluated) (items : List Value) (f : List Value → Value) :
    WorksOn op (items.map body) ((keep body items).map f) := by
  induction items generalizing f with
  | nil => exact .ok (f [])
  | cons v items ih =>
    have hcons : (keep body (v :: items)).map f = (body v).bind fun w =>
        (keep body items).map fun ws => f (if w.isTruthy then v :: ws else ws) := by
      rw [keep_cons]
      cases body v with
      | error error => rfl
      | ok w => cases keep body items <;> rfl
    rw [hcons]
    exact .bind .whole fun w => ih _

/-- **A lambda over a list** works on what its body evaluates to for each item. -/
theorem worksOn_overItems (op : Operator) (body : Value → Evaluated) (items : List Value) :
    WorksOn op (items.map body) ((overItems op body items).map .list) := by
  rw [overItems]
  split
  · exact worksOn_mapM body items .list
  · exact worksOn_keep body items .list

end Source

end CodeSnapshot

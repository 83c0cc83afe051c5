import CodeSnapshot.Instances
import CodeSnapshot.Proofs.Query.AppliedOperators

/-!
# Renamed parameters — the name of a parameter does not matter

The parameter of a lambda can have any name that its body does not use. The body is then written
with the new name wherever the parameter is evaluated, and the command evaluates to what it did,
whatever else has the old name or the new one.

* **`Expr.symbols`** — all symbols of an expression; **`Expr.rename`** — the expression with another
  name for a parameter.
* **`Matches`** — two scopes that give the same values, but for the two names; `Matches.child` and
  `Matches.shadow` go into a lambda, over another name or over the old one.
* **`eval_rename`** — by induction on the expression; **`eval_renamed_parameter`** — the headline.
-/

namespace CodeSnapshot

namespace Expr

mutual

/-- The names of all symbols of an expression, those of operators and parameters included. -/
def symbols : Expr → List String
  | symbol name => [name]
  | list items => symbolsAll items
  | text _ | number _ => []

def symbolsAll : List Expr → List String
  | [] => []
  | item :: items => item.symbols ++ symbolsAll items

end

mutual

/-- The expression with another name for a parameter, wherever the parameter is evaluated. Operators
and the parameters of lambdas keep their names, and so does the body of a lambda over the same name.
Where nothing is evaluated, nothing is renamed. -/
def rename (old new : String) : Expr → Expr
  | symbol name => symbol (if name = old then new else name)
  | list (symbol name :: args) =>
    match Operator.ofName? name with
    | none => list (symbol name :: args)
    | some op =>
      match op, args with
      | .map, [x, list [symbol "lambda", list [symbol param], body]]
      | .filter, [x, list [symbol "lambda", list [symbol param], body]] =>
        list [symbol name, x.rename old new,
          lambda param (if param = old then body else body.rename old new)]
      | op, args =>
        if !op.isEach && op.takes args.length then list (symbol name :: renameAll old new args)
        else list (symbol name :: args)
  | e => e
termination_by structural e => e

def renameAll (old new : String) : List Expr → List Expr
  | [] => []
  | arg :: args => arg.rename old new :: renameAll old new args
termination_by structural args => args

end

variable {old new name param : String} {op : Operator} {args : List Expr} {x body : Expr}

theorem symbols_subset_of_mem {e : Expr} {items : List Expr} (h : e ∈ items) :
    e.symbols ⊆ symbolsAll items := by
  induction items with
  | nil => exact absurd h List.not_mem_nil
  | cons item items ih =>
    rcases List.mem_cons.1 h with rfl | h
    · exact List.subset_append_left ..
    · exact List.Subset.trans (ih h) (List.subset_append_right ..)

theorem symbols_each : (list [symbol name, x, lambda param body]).symbols =
    name :: (x.symbols ++ "lambda" :: param :: body.symbols) := by
  simp [symbols, symbolsAll]

theorem renameAll_eq_map (args : List Expr) :
    renameAll old new args = args.map (rename old new) := by
  induction args with
  | nil => rfl
  | cons arg args ih => rw [renameAll, ih, List.map_cons]

theorem rename_arguments (hname : Operator.ofName? name = some op) (hop : op.isEach = false)
    (htakes : op.takes args.length = true) :
    rename old new (list (symbol name :: args)) =
      list (symbol name :: args.map (rename old new)) := by
  rw [← renameAll_eq_map]
  cases op with
  | map | filter => cases hop
  | _ => simp [rename, hname, htakes, Operator.isEach]

theorem rename_each (hname : Operator.ofName? name = some op) (hop : op.isEach = true) :
    rename old new (list [symbol name, x, lambda param body]) =
      list [symbol name, x.rename old new,
        lambda param (if param = old then body else body.rename old new)] := by
  cases op with
  | map | filter => simp only [rename, hname, lambda]
  | _ => cases hop

/-- Where nothing is evaluated, nothing is renamed. -/
theorem Stuck.rename_eq {e : Expr} (h : e.Stuck) : e.rename old new = e := by
  cases h with
  | empty => simp only [rename]
  | head head args h =>
    cases head with
    | symbol name => exact absurd rfl (h name)
    | text | number | list => simp only [rename]
  | unknown name args h => simp only [rename, h]
  | arity name op args hname htakes =>
    cases op with
    | map | filter =>
      have hargs (x : Expr) (param : String) (body : Expr) :
          args ≠ [x, list [symbol "lambda", list [symbol param], body]] := by
        rintro rfl
        cases htakes
      simp [rename, hname, htakes, hargs]
    | _ => simp [rename, hname, htakes]
  | lambdaShape name op x found hname hop hfound =>
    unfold lambda at hfound
    cases op with
    | map | filter => simp [rename, hname, hfound, Operator.isEach]
    | _ => cases hop

/-- A parameter that keeps its name. -/
theorem rename_self (name : String) (e : Expr) : e.rename name name = e := by
  induction e using evaluation_induction with
  | text s => simp only [rename]
  | number x => simp only [rename]
  | symbol other =>
    rw [rename]
    split
    · next h => rw [h]
    · rfl
  | stuck e h => exact h.rename_eq
  | arguments op' op args hname hop htakes ih =>
    have hargs : args.map (rename name name) = args := by
      rw [List.map_congr_left ih, List.map_id']
    rw [rename_arguments hname hop htakes, hargs]
  | each op' op x param body hname hop ihx ihbody =>
    rw [rename_each hname hop, ihx, ihbody, ite_self]

end Expr

/-! ## Scopes -/

/-- Two scopes that give the same values to some names, where the one has a parameter under the old
name and the other under the new. The new name is none of the others. -/
structure Matches (old new : String) (names : List String) (scope scope' : Scope) : Prop where
  bound : ∃ v, scope.lookup? old = some v ∧ scope'.lookup? new = some v
  others : ∀ name ∈ names, name ≠ old → scope.lookup? name = scope'.lookup? name
  fresh : new ∈ names → new = old

namespace Matches

variable {old new name : String} {names more : List String} {scope scope' : Scope}

theorem mono (h : Matches old new names scope scope') (hsubset : more ⊆ names) :
    Matches old new more scope scope' :=
  ⟨h.bound, fun name hname => h.others name (hsubset hname), fun hnew => h.fresh (hsubset hnew)⟩

/-- Inside a lambda with a parameter of another name. -/
theorem child (h : Matches old new names scope scope') (hname : name ∈ names) (hne : name ≠ old)
    (v : Value) : Matches old new names (scope.child name v) (scope'.child name v) := by
  have hnew : name ≠ new := by
    rintro rfl
    exact hne (h.fresh hname)
  obtain ⟨w, hold, hw⟩ := h.bound
  refine ⟨⟨w, ?_, ?_⟩, fun other hother hold => ?_, h.fresh⟩
  · rwa [scope.lookup?_child_ne v hne]
  · rwa [scope'.lookup?_child_ne v hnew]
  · by_cases hother' : name = other
    · subst hother'
      rw [scope.lookup?_child_self, scope'.lookup?_child_self]
    · rw [scope.lookup?_child_ne v hother', scope'.lookup?_child_ne v hother']
      exact h.others other hother hold

/-- Inside a lambda whose parameter has the old name as well, that name means the same in both. -/
theorem shadow (h : Matches old new names scope scope') (v : Value) :
    Matches old old names (scope.child old v) (scope'.child old v) := by
  refine ⟨⟨v, scope.lookup?_child_self old v, scope'.lookup?_child_self old v⟩,
    fun name hname hne => ?_, fun _ => rfl⟩
  rw [scope.lookup?_child_ne v hne.symm, scope'.lookup?_child_ne v hne.symm]
  exact h.others name hname hne

end Matches

/-! ## Evaluation -/

namespace Source

open CodeSnapshot.Expr

section

variable [Regexes] [Sorting]

/-- **A renamed parameter changes nothing**, wherever the expression stands. Induction along what is
evaluated; a lambda over the old name is left alone, and there the two scopes agree on all names. -/
theorem eval_rename (s : Source) (e : Expr) {old new : String} {scope scope' : Scope}
    (h : Matches old new e.symbols scope scope') :
    s.eval e scope = s.eval (e.rename old new) scope' := by
  induction e using evaluation_induction generalizing old new scope scope' with
  | text t => simp only [rename, eval]
  | number x => simp only [rename, eval]
  | symbol name =>
    rw [rename]
    by_cases hname : name = old
    · obtain ⟨v, hv, hv'⟩ := h.bound
      rw [if_pos hname, hname, eval, eval, hv, hv']
      rfl
    · rw [if_neg hname, eval, eval, h.others name (List.mem_singleton_self name) hname]
  | stuck e hstuck =>
    obtain ⟨error, -, heval⟩ := hstuck.eval_eq s
    rw [hstuck.rename_eq, heval, heval]
  | arguments name op args hname hop htakes ih =>
    have hargs : args.map (s.eval · scope) = (args.map (rename old new)).map (s.eval · scope') := by
      rw [List.map_map]
      refine List.map_congr_left fun a ha => ih a ha (h.mono ?_)
      exact List.Subset.trans (symbols_subset_of_mem ha) (List.subset_append_right ..)
    rw [rename_arguments hname hop htakes, eval_apply hname hop, eval_apply hname hop, hargs]
  | each name op x param body hname hop ihx ihbody =>
    rw [symbols_each] at h
    have hx : s.eval x scope = s.eval (x.rename old new) scope' :=
      ihx (h.mono fun _ hmem => List.mem_cons_of_mem _ (List.mem_append_left _ hmem))
    have hlambda : "lambda" :: param :: body.symbols ⊆
        name :: (x.symbols ++ "lambda" :: param :: body.symbols) :=
      fun _ hmem => List.mem_cons_of_mem _ (List.mem_append_right _ hmem)
    have hsymbols : param :: body.symbols ⊆ "lambda" :: param :: body.symbols :=
      List.subset_cons_self ..
    have h := h.mono (List.Subset.trans hsymbols hlambda)
    have hbody (v : Value) : s.eval body (scope.child param v) =
        s.eval (if param = old then body else body.rename old new) (scope'.child param v) := by
      by_cases hparam : param = old
      · subst hparam
        have heval := ihbody ((h.shadow v).mono (List.subset_cons_self ..))
        rw [rename_self] at heval
        rw [if_pos rfl]
        exact heval
      · rw [if_neg hparam]
        exact ihbody ((h.child List.mem_cons_self hparam v).mono (List.subset_cons_self ..))
    rw [rename_each hname hop, eval_each hname hop, eval_each hname hop, hx]
    simp only [hbody]

/-- **The parameter of a lambda can have any name** that does not occur in its body: the command
evaluates to the same value, or fails in the same way, whatever the two names mean around it. -/
theorem eval_renamed_parameter (s : Source) (scope : Scope) {op : Operator}
    (hop : op = .map ∨ op = .filter) (x body : Expr) {p q : String} (hq : q ∉ body.symbols) :
    s.eval (.list [.symbol op.name, x, .lambda p body]) scope =
      s.eval (.list [.symbol op.name, x, .lambda q (body.rename p q)]) scope := by
  have hname := Operator.ofName?_name op
  have heach : op.isEach = true := by
    rcases hop with rfl | rfl
    · rfl
    · rfl
  have hbody (v : Value) : s.eval body (scope.child p v) =
      s.eval (body.rename p q) (scope.child q v) := by
    refine eval_rename s body ⟨⟨v, scope.lookup?_child_self p v, scope.lookup?_child_self q v⟩,
      fun name hname hne => ?_, fun h => absurd h hq⟩
    have hneq : q ≠ name := by
      rintro rfl
      exact hq hname
    rw [scope.lookup?_child_ne v hne.symm, scope.lookup?_child_ne v hneq]
  simp only [eval_each hname heach, hbody]

end

/-- The new name has a value around the lambda, and a lambda inside it goes over the old one. -/
theorem eval_renamed_parameter_around_shadow :
    let source : Source := { document := Document.parse "snapshot.txt" 0 "one\n" }
    let scope := (Scope.root .empty).child "q" (.list [.list [.null, .text "a"]])
    let kept (name : String) : Expr :=
      .list [.symbol "filter", .symbol name, .lambda "p" (.symbol "p")]
    "q" ∉ (kept "p").symbols ∧
      source.eval (.list [.symbol "map", .symbol "q", .lambda "p" (kept "p")]) scope =
        source.eval (.list [.symbol "map", .symbol "q", .lambda "q" (kept "q")]) scope := by
  intro source scope kept
  have hq : "q" ∉ (kept "p").symbols := by decide
  exact ⟨hq, source.eval_renamed_parameter scope (.inl rfl) (.symbol "q") (kept "p") hq⟩

end Source

end CodeSnapshot

import CodeSnapshot.Instances
import CodeSnapshot.Proofs.Query.CommandExtraction
import CodeSnapshot.Proofs.Query.OperatorOutcomes

/-!
# Named failures — an error names the operator that raises it

A list is at fault itself, or something fails that is evaluated for it, and then the list fails with
the same error. So an error can be followed down from the command to the list that raises it, and it
names the head of that list.

* **`parts`** — what is evaluated for an expression, in order; `eval_cases` is the step from an
  expression to its parts.
* **`faulty_or_part_of_error`**, **`eval_of_part_error`** — where an error comes from, and what
  becomes of it.
* **`exists_raisedBy`** — the way down, by induction along what is evaluated.
* **`malformed_of_parse`** — a text that does not parse has a place where it goes wrong.
* **`failures_named`** — the headline.
-/

namespace CodeSnapshot

/-- An expression that stands somewhere in another one. -/
inductive Expr.Inside : Expr → Expr → Prop where
  | self (e : Expr) : Inside e e
  | item {inner e : Expr} {items : List Expr} (h : Inside inner e) (he : e ∈ items) :
      Inside inner (list items)

/-- What a list at fault says: it is empty, or its error is about its head, and that is an operator
unless the error says that it is none. -/
theorem Expr.Faulty.names_head {e : Expr} {error : QueryError} (h : e.Faulty error) :
    (e = .list [] ∧ ∃ position, error = .malformed position .emptyApplication) ∨
    ∃ head args, e = .list (head :: args) ∧ error.operatorName? = some head.render ∧
      (error = .unknownOperator head.render ∨ head.render ∈ Operator.all.map Operator.name) := by
  cases h with
  | empty => exact .inl ⟨rfl, 0, rfl⟩
  | unknown head args => exact .inr ⟨head, args, rfl, rfl, .inl rfl⟩
  | refused name op args error hname herror =>
    have hop : op.name = name := Operator.name_of_ofName? hname
    refine .inr ⟨.symbol name, args, rfl, ?_, .inr ?_⟩
    · rw [render, ← hop]
      cases error with
      | malformed | unknownOperator => cases herror
      | lambdaShape | arity | unsupportedFlag | invalidPattern | wrongKind | notNumeric | brokenOff =>
        cases herror
        rfl
    · rw [render, ← hop]
      exact List.mem_map_of_mem op.mem_all

/-! ## From an expression to its parts -/

namespace Source

variable [Regexes] [Sorting] {s : Source} {op : Operator} {e : Expr} {scope : Scope}

/-- What is evaluated for an expression, in order: the arguments of an operator, or a list and then
the body of a lambda for each of its items. -/
def parts (s : Source) (scope : Scope) : Expr → List (Expr × Scope)
  | .list (.symbol name :: args) =>
    match Operator.ofName? name with
    | none => []
    | some op =>
      if op.isEach then
        match args with
        | [x, .lambda param body] =>
          (x, scope) ::
            match Evaluated.items op (s.eval x scope) with
            | .ok items => items.map fun v => (body, scope.child param v)
            | .error _ => []
        | _ => []
      else if op.takes args.length then args.map fun a => (a, scope)
      else []
  | _ => []

/-- What a part evaluates to. -/
def result (s : Source) (part : Expr × Scope) : Evaluated :=
  s.eval part.1 part.2

variable {name param : String} {args : List Expr} {x body : Expr}

theorem parts_of_stuck (h : e.Stuck) : s.parts scope e = [] := by
  cases h with
  | empty => rfl
  | head head args h =>
    cases head with
    | symbol name => exact absurd rfl (h name)
    | text | number | list => rfl
  | unknown name args h => simp [parts, h]
  | arity name op args hname htakes =>
    cases hop : op.isEach with
    | false => simp [parts, hname, hop, htakes]
    | true =>
      have hlength : args.length ≠ 2 := fun h =>
        Bool.eq_false_iff.1 htakes ((Operator.takes_iff_of_isEach hop).2 h)
      match args with
      | [x, found] => exact absurd rfl hlength
      | [] | [_] | _ :: _ :: _ :: _ => simp [parts, hname, hop]
  | lambdaShape name op x found hname hop hfound =>
    unfold Expr.lambda at hfound
    simp [parts, hname, hop, hfound]

theorem parts_arguments (hname : Operator.ofName? name = some op) (hop : op.isEach = false)
    (htakes : op.takes args.length = true) :
    s.parts scope (.list (.symbol name :: args)) = args.map fun a => (a, scope) := by
  simp [parts, hname, hop, htakes]

theorem parts_each (hname : Operator.ofName? name = some op) (hop : op.isEach = true)
    {items : List Value} (hitems : Evaluated.items op (s.eval x scope) = .ok items) :
    s.parts scope (.list [.symbol name, x, .lambda param body]) =
      (x, scope) :: items.map fun v => (body, scope.child param v) := by
  simp [parts, Expr.lambda, hname, hop, hitems]

theorem parts_each_of_error (hname : Operator.ofName? name = some op) (hop : op.isEach = true)
    {error : QueryError} (hitems : Evaluated.items op (s.eval x scope) = .error error) :
    s.parts scope (.list [.symbol name, x, .lambda param body]) = [(x, scope)] := by
  simp [parts, Expr.lambda, hname, hop, hitems]

theorem eq_or_eq_of_mem_parts_each (hname : Operator.ofName? name = some op)
    (hop : op.isEach = true) {part : Expr × Scope}
    (h : part ∈ s.parts scope (.list [.symbol name, x, .lambda param body])) :
    part = (x, scope) ∨ ∃ v, part = (body, scope.child param v) := by
  cases hitems : Evaluated.items op (s.eval x scope) with
  | error error =>
    rw [parts_each_of_error hname hop hitems] at h
    exact .inl (List.mem_singleton.1 h)
  | ok items =>
    rw [parts_each hname hop hitems] at h
    rcases List.mem_cons.1 h with h | h
    · exact .inl h
    · obtain ⟨v, -, rfl⟩ := List.mem_map.1 h
      exact .inr ⟨v, rfl⟩

theorem worksOn_arguments (hname : Operator.ofName? name = some op) (hop : op.isEach = false)
    (htakes : op.takes args.length = true) :
    WorksOn op ((s.parts scope (.list (.symbol name :: args))).map s.result)
      (s.eval (.list (.symbol name :: args)) scope) := by
  have hlength : (args.map (s.eval · scope)).length = args.length := List.length_map _
  rw [parts_arguments hname hop htakes, eval_apply hname hop, List.map_map]
  exact s.worksOn_apply hop (hlength ▸ htakes)

theorem worksOn_each (hname : Operator.ofName? name = some op) (hop : op.isEach = true) :
    WorksOn op ((s.parts scope (.list [.symbol name, x, .lambda param body])).map s.result)
      (s.eval (.list [.symbol name, x, .lambda param body]) scope) := by
  rw [eval_each hname hop]
  cases hitems : Evaluated.items op (s.eval x scope) with
  | error error =>
    rw [parts_each_of_error hname hop hitems]
    have hworks : WorksOn op [s.eval x scope]
        ((Evaluated.items op (s.eval x scope)).map Value.list) := .map .items Value.list
    rw [hitems] at hworks
    exact hworks
  | ok items =>
    obtain ⟨v, hv⟩ : ∃ v, s.eval x scope = .ok v := by
      cases hx : s.eval x scope with
      | error error =>
        rw [hx] at hitems
        cases hitems
      | ok v => exact ⟨v, rfl⟩
    rw [parts_each hname hop hitems, List.map_cons, result, hv, List.map_map]
    exact (worksOn_overItems op _ items).cons_ok v

/-- Every expression has a value, is stuck, or its operator works on the results of its parts. -/
theorem eval_cases (s : Source) (scope : Scope) (e : Expr) :
    (s.parts scope e = [] ∧ ∃ v, s.eval e scope = .ok v) ∨ e.Stuck ∨
    ∃ name op args, e = .list (.symbol name :: args) ∧ Operator.ofName? name = some op ∧
      WorksOn op ((s.parts scope e).map s.result) (s.eval e scope) := by
  induction e using Expr.evaluation_induction with
  | text t => exact .inl ⟨rfl, .text t, by simp only [eval]⟩
  | number x => exact .inl ⟨rfl, .number x, by simp only [eval]⟩
  | symbol name => exact .inl ⟨rfl, (scope.lookup? name).getD (.text name), by simp only [eval]⟩
  | stuck e h => exact .inr (.inl h)
  | arguments name op args hname hop htakes =>
    exact .inr (.inr ⟨name, op, args, rfl, hname, worksOn_arguments hname hop htakes⟩)
  | each name op x param body hname hop =>
    exact .inr (.inr ⟨name, op, _, rfl, hname, worksOn_each hname hop⟩)

/-- An expression that fails is at fault itself, or hands on the error of a part. -/
theorem faulty_or_part_of_error {error : QueryError} (h : s.eval e scope = .error error) :
    e.Faulty error ∨ ∃ part ∈ s.parts scope e, s.result part = .error error := by
  obtain ⟨-, v, hv⟩ | hstuck | ⟨name, op, args, rfl, hname, hworks⟩ := s.eval_cases scope e
  · rw [h] at hv
    cases hv
  · obtain ⟨other, hfaulty, heval⟩ := hstuck.eval_eq s
    rw [heval] at h
    cases h
    exact .inl hfaulty
  · rw [h] at hworks
    rcases hworks.error_cases with hop | hmem
    · exact .inl (.refused name op args error hname hop)
    · obtain ⟨part, hpart, hresult⟩ := List.mem_map.1 hmem
      exact .inr ⟨part, hpart, hresult⟩

/-- The first failure among the parts is what the expression fails with, unless its operator refuses
what an earlier part gave. -/
theorem eval_of_part_error {error : QueryError} {before after : List (Expr × Scope)}
    {part : Expr × Scope} (hparts : s.parts scope e = before ++ part :: after)
    (hbefore : ∀ earlier ∈ before, ∃ v, s.result earlier = .ok v)
    (hpart : s.result part = .error error) :
    s.eval e scope = .error error ∨
      before ≠ [] ∧ ∃ other, e.Faulty other ∧ s.eval e scope = .error other := by
  obtain ⟨hnil, -⟩ | hstuck | ⟨name, op, args, rfl, hname, hworks⟩ := s.eval_cases scope e
  · rw [hnil] at hparts
    exact absurd hparts.symm (by simp)
  · rw [parts_of_stuck hstuck] at hparts
    exact absurd hparts.symm (by simp)
  · rw [hparts, List.map_append, List.map_cons, hpart] at hworks
    rcases hworks.first_failure (List.forall_mem_map.2 hbefore) with hout | ⟨hne, other, hop, hout⟩
    · exact .inl hout
    · exact .inr ⟨by simpa using hne, other, .refused name op args other hname hop, hout⟩

/-! ## The way down -/

/-- The way from an expression that fails down to the one at fault, through parts that all fail with
the same error. -/
inductive RaisedBy (s : Source) (error : QueryError) : Expr × Scope → Expr × Scope → Prop where
  | here (e : Expr) (scope : Scope) (hfails : s.eval e scope = .error error)
      (hfaulty : e.Faulty error) : RaisedBy s error (e, scope) (e, scope)
  | inside (e : Expr) (scope : Scope) (part origin : Expr × Scope)
      (hfails : s.eval e scope = .error error) (hpart : part ∈ s.parts scope e)
      (h : RaisedBy s error part origin) : RaisedBy s error (e, scope) origin

theorem RaisedBy.faulty {error : QueryError} {outer origin : Expr × Scope}
    (h : s.RaisedBy error outer origin) : origin.1.Faulty error := by
  induction h with
  | here e scope hfails hfaulty => exact hfaulty
  | inside e scope part origin hfails hpart h ih => exact ih

theorem exists_raisedBy {error : QueryError} (h : s.eval e scope = .error error) :
    ∃ origin, s.RaisedBy error (e, scope) origin ∧ origin.1.Inside e := by
  induction e using Expr.evaluation_induction generalizing scope with
  | text | number | symbol =>
    rw [eval] at h
    cases h
  | stuck e hstuck =>
    obtain ⟨other, hfaulty, heval⟩ := hstuck.eval_eq s
    have hother : other = error := Except.error.inj ((heval scope).symm.trans h)
    exact ⟨(e, scope), .here e scope h (hother ▸ hfaulty), .self e⟩
  | arguments name op args hname hop htakes ih =>
    rcases faulty_or_part_of_error h with hfaulty | ⟨part, hpart, hresult⟩
    · exact ⟨_, .here _ scope h hfaulty, .self _⟩
    · have hpart' := hpart
      rw [parts_arguments hname hop htakes] at hpart'
      obtain ⟨a, ha, rfl⟩ := List.mem_map.1 hpart'
      obtain ⟨origin, hraised, hinside⟩ := ih a ha hresult
      exact ⟨origin, .inside _ scope _ origin h hpart hraised,
        hinside.item (List.mem_cons_of_mem _ ha)⟩
  | each name op x param body hname hop ihx ihbody =>
    rcases faulty_or_part_of_error h with hfaulty | ⟨part, hpart, hresult⟩
    · exact ⟨_, .here _ scope h hfaulty, .self _⟩
    · rcases eq_or_eq_of_mem_parts_each hname hop hpart with rfl | ⟨v, rfl⟩
      · obtain ⟨origin, hraised, hinside⟩ := ihx hresult
        exact ⟨origin, .inside _ scope _ origin h hpart hraised, hinside.item (by simp)⟩
      · obtain ⟨origin, hraised, hinside⟩ := ihbody hresult
        have hlambda : origin.1.Inside (.lambda param body) := hinside.item (by simp)
        exact ⟨origin, .inside _ scope _ origin h hpart hraised, hlambda.item (by simp)⟩

end Source

/-! ## Texts that do not parse -/

section Malformed

variable {error : QueryError}

theorem eq_error_of_map {α β : Type} {r : Except QueryError α} {f : α → β}
    (h : r.map f = .error error) : r = .error error := by
  cases r with
  | error other =>
    cases h
    rfl
  | ok a => cases h

theorem Token.malformed_of_scan {n : Nat} {st : Token.Scan} {cs : List Char}
    (h : scan n st cs = .error error) : ∃ position fault, error = .malformed position fault := by
  induction cs generalizing n st with
  | nil =>
    cases st with
    | between | inAtom => cases h
    | inText | escaped =>
      cases h
      exact ⟨_, _, rfl⟩
  | cons c rest ih =>
    -- whatever the character is, the rest is scanned once
    cases st with
    | between =>
      rw [scan_between_cons] at h
      split_ifs at h <;> first | exact ih h | exact ih (eq_error_of_map h)
    | inText start chars =>
      rw [scan_inText_cons] at h
      split_ifs at h <;> first | exact ih h | exact ih (eq_error_of_map h)
    | escaped start chars => exact ih h
    | inAtom start chars =>
      rw [scan_inAtom_cons] at h
      split_ifs at h <;> first | exact ih h | exact ih (eq_error_of_map h)

namespace Expr

theorem malformed_of_deliver {stop : Nat} {rest : List (Nat × Token)} {e : Expr}
    {opened : List OpenList}
    (h : (match deliver e opened with
      | .inr opened => ofTokens stop opened rest
      | .inl e =>
        match rest with
        | [] => .ok e
        | (position, _) :: _ => .error (.malformed position .trailingInput)) = .error error)
    (ih : ∀ opened, ofTokens stop opened rest = .error error →
      ∃ position fault, error = .malformed position fault) :
    ∃ position fault, error = .malformed position fault := by
  cases opened with
  | nil =>
    cases rest with
    | nil => cases h
    | cons t rest =>
      cases h
      exact ⟨_, _, rfl⟩
  | cons l opened => exact ih _ h

theorem malformed_of_ofTokens {stop : Nat} {opened : List OpenList} {ts : List (Nat × Token)}
    (h : ofTokens stop opened ts = .error error) :
    ∃ position fault, error = .malformed position fault := by
  fun_induction ofTokens stop opened ts with
  | case1 | case2 | case5 | case7 =>
    cases h
    exact ⟨_, _, rfl⟩
  | case3 opened position rest chars complete ih
  | case4 opened position rest chars complete ih => exact malformed_of_deliver h ih
  | case6 opened position rest hdepth ih => exact ih _ h
  | case8 position rest l opened complete ih => exact malformed_of_deliver h ih

theorem malformed_of_parse {source : String} (h : parse source = .error error) :
    ∃ position fault, error = .malformed position fault := by
  rw [parse] at h
  split at h
  · next other hscan =>
    cases h
    exact Token.malformed_of_scan hscan
  · exact malformed_of_ofTokens h

end Expr

end Malformed

/-- **Failures are named**, for every document, every session and every command. A command that
fails does not parse, and the error says where; or the error comes up from some list of the command,
through expressions that all fail with it. That list is empty, or it begins with the operator that
the error is about, or with what the error says is no operator. And whatever is evaluated inside an
expression and fails, the expression fails with the same error, unless its operator has refused what
was evaluated before. -/
theorem failures_named [Regexes] [Sorting] (s : Source) (session : Bindings) (command : String) :
    (∀ error, s.execute command session = .error error →
      (Expr.parse command = .error error ∧ ∃ position fault, error = .malformed position fault) ∨
      ∃ e origin, Expr.parse command = .ok e ∧ origin.1.Inside e ∧
        s.RaisedBy error (e, Scope.root session) origin ∧
        ((origin.1 = .list [] ∧ ∃ position, error = .malformed position .emptyApplication) ∨
          ∃ head args, origin.1 = .list (head :: args) ∧
            error.operatorName? = some head.render ∧
            (error = .unknownOperator head.render ∨
              head.render ∈ Operator.all.map Operator.name))) ∧
    ∀ e scope error before part after, s.parts scope e = before ++ part :: after →
      (∀ earlier ∈ before, ∃ v, s.result earlier = .ok v) → s.result part = .error error →
      s.eval e scope = .error error ∨
        before ≠ [] ∧ ∃ other, e.Faulty other ∧ s.eval e scope = .error other := by
  refine ⟨fun error h => ?_, fun e scope error before part after => Source.eval_of_part_error⟩
  rw [Source.execute] at h
  cases hparse : Expr.parse command with
  | error other =>
    rw [hparse] at h
    cases h
    exact .inl ⟨rfl, Expr.malformed_of_parse hparse⟩
  | ok e =>
    rw [hparse] at h
    obtain ⟨origin, hraised, hinside⟩ := Source.exists_raisedBy h
    exact .inr ⟨e, origin, rfl, hinside, hraised, hraised.faulty.names_head⟩

example :
    let source : Source := { document := Document.parse "snapshot.txt" 0 "one\n" }
    source.execute "(count (map (lines 1 1) (lambda (m) (sum (get m line)))))" .empty =
      .error (.wrongKind .sum .list .text) := by
  rfl

end CodeSnapshot

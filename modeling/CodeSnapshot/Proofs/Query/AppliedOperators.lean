import CodeSnapshot.Query.Eval
import Mathlib.Data.List.Basic

/-!
# Applied operators — what an operator does with what its arguments evaluate to

Most operators evaluate their arguments once, in the scope that they stand in; two evaluate the body
of a lambda for each item of a list. An operator takes a certain number of arguments, and where it
does not get them nothing is evaluated at all.

* **`Source.apply`**, **`eval_apply`** — an operator applied to what its arguments evaluate to.
* **`Source.overItems`**, **`eval_each`** — a lambda over the items of a list.
* **`Expr.Stuck`** — the lists inside which nothing is evaluated; **`Expr.Faulty`** — how a list can
  be at fault itself. `Stuck.eval_eq` says that a stuck list is at fault, and in every scope alike.
* **`Expr.evaluation_induction`** — induction along what is evaluated.
-/

namespace CodeSnapshot

/-- A parameter and a body. -/
@[match_pattern] def Expr.lambda (param : String) (body : Expr) : Expr :=
  .list [.symbol "lambda", .list [.symbol param], body]

/-- The operator that refuses what it is given. -/
def QueryError.operator? : QueryError → Option Operator
  | lambdaShape op _ | arity op _ | unsupportedFlag op _ | invalidPattern op _ | wrongKind op _ _
  | notNumeric op _ | brokenOff op => some op
  | malformed .. | unknownOperator _ => none

namespace Operator

/-- An operator that evaluates the body of a lambda for each item of a list. -/
def isEach : Operator → Bool
  | map | filter => true
  | _ => false

/-- How many arguments an operator can have. -/
def takes : Operator → Nat → Bool
  | files, n => n == 0
  | count, n | first, n | last, n | not, n => n == 1
  | map, n | filter, n | take, n | lines, n | get, n => n == 2
  | grep, n | sort, n | sum, n => n == 1 || n == 2
  | capture, n => n == 2 || n == 3

theorem takes_iff_of_isEach {op : Operator} (h : op.isEach = true) {n : Nat} :
    op.takes n = true ↔ n = 2 := by
  cases op with
  | map | filter => exact beq_iff_eq
  | _ => cases h

end Operator

namespace Source

variable [Regexes] [Sorting]

/-- What an operator makes of what its arguments evaluate to. -/
def apply (s : Source) (op : Operator) (rs : List Evaluated) : Evaluated :=
  match op, rs with
  | .grep, [pattern] =>
    (Evaluated.text op pattern).bind fun pattern => s.grep pattern ""
  | .grep, [pattern, flags] =>
    (Evaluated.text op pattern).bind fun pattern =>
      (Evaluated.text op flags).bind fun flags => s.grep pattern flags
  | .count, [x] => x.map fun v => .ofNat (countOf v)
  | .first, [x] => (Evaluated.items op x).map fun items => items.head?.getD .null
  | .last, [x] => (Evaluated.items op x).map fun items => items.getLast?.getD .null
  | .take, [x, n] =>
    (Evaluated.items op x).bind fun items =>
      (Evaluated.number op n).map fun n => .list (items.take n.toNat)
  | .sort, [x] =>
    (Evaluated.items op x).bind fun items => sorted none items
  | .sort, [x, key] =>
    (Evaluated.items op x).bind fun items =>
      (Evaluated.text op key).bind fun key => sorted (some key) items
  | .capture, [x, pattern] =>
    x.bind fun v =>
      (Evaluated.text op pattern).bind fun text =>
        (Source.pattern op text {}).map fun r => groupOf r v.subject Double.zero
  | .capture, [x, pattern, group] =>
    x.bind fun v =>
      (Evaluated.text op pattern).bind fun text =>
        (Evaluated.number op group).bind fun group =>
          (Source.pattern op text {}).map fun r => groupOf r v.subject group
  | .lines, [first, last] =>
    (Evaluated.number op first).bind fun first =>
      (Evaluated.number op last).map fun last => s.lines first last
  | .files, [] => .ok s.files
  | .get, [x, name] =>
    x.bind fun v => (Evaluated.text op name).map fun name => fieldOf v name
  | .sum, [x] => (Evaluated.items op x).map fun items => .number (Value.sum items)
  | .sum, [x, key] =>
    (Evaluated.items op x).bind fun items =>
      (Evaluated.text op key).map fun key => .number (Value.sum (items.map (·.field key)))
  | .not, [x] => x.map fun v => .bool (!v.isTruthy)
  | op, rs => .error (.arity op rs.length)

/-- What comes of evaluating the body of a lambda for each item: all results, or the items whose
result is true. -/
def overItems (op : Operator) (body : Value → Evaluated) (items : List Value) :
    Except QueryError (List Value) :=
  if op = .map then items.mapM body else keep body items

variable {s : Source} {op : Operator} {name param : String} {args : List Expr} {x body : Expr}
  {scope : Scope} {rs : List Evaluated}

theorem eval_apply (hname : Operator.ofName? name = some op) (hop : op.isEach = false) :
    s.eval (.list (.symbol name :: args)) scope = s.apply op (args.map (s.eval · scope)) := by
  match args with
  | [] =>
    cases op with
    | map | filter => cases hop
    | _ => simp only [eval, hname, apply, List.map, List.length]
  | [a] =>
    cases op with
    | map | filter => cases hop
    | _ => simp only [eval, hname, apply, List.map, List.length]
  | [a, b] =>
    cases op with
    | map | filter => cases hop
    | _ => simp only [eval, hname, apply, List.map, List.length]
  | [a, b, c] =>
    cases op with
    | map | filter => cases hop
    | _ => simp only [eval, hname, apply, List.map, List.length]
  | a :: b :: c :: d :: rest =>
    cases op with
    | map | filter => cases hop
    | _ => simp only [eval, hname, apply, List.map, List.length, List.length_map]

theorem apply_of_not_takes (h : op.takes rs.length = false) :
    s.apply op rs = .error (.arity op rs.length) := by
  fun_cases apply s op rs with
  | case17 => rfl
  | _ => simp [Operator.takes] at h

theorem eval_each (hname : Operator.ofName? name = some op) (hop : op.isEach = true) :
    s.eval (.list [.symbol name, x, .lambda param body]) scope =
      (Evaluated.items op (s.eval x scope)).bind fun items =>
        (overItems op (fun v => s.eval body (scope.child param v)) items).map .list := by
  cases op with
  | map | filter => simp [eval, hname, Expr.lambda, overItems]
  | _ => cases hop

theorem eval_of_not_lambda {found : Expr} (hname : Operator.ofName? name = some op)
    (hop : op.isEach = true) (hfound : ∀ param body, found ≠ .lambda param body) :
    s.eval (.list [.symbol name, x, found]) scope = .error (.lambdaShape op found) := by
  unfold Expr.lambda at hfound
  cases op with
  | map | filter => simp [eval, hname]
  | _ => cases hop

theorem eval_of_length_ne (hname : Operator.ofName? name = some op) (hop : op.isEach = true)
    (hlength : args.length ≠ 2) :
    s.eval (.list (.symbol name :: args)) scope = .error (.arity op args.length) := by
  match args with
  | [a, b] => exact absurd rfl hlength
  | [] | [a] | a :: b :: c :: rest =>
    cases op with
    | map | filter => simp [eval, hname]
    | _ => cases hop

end Source

/-! ## What is evaluated inside an expression -/

namespace Expr

/-- A list inside which nothing is evaluated: it has no operator, or the operator does not take what
follows it. -/
inductive Stuck : Expr → Prop where
  | empty : Stuck (list [])
  | head (head : Expr) (args : List Expr) (h : ∀ name, head ≠ symbol name) :
      Stuck (list (head :: args))
  | unknown (name : String) (args : List Expr) (h : Operator.ofName? name = none) :
      Stuck (list (symbol name :: args))
  | arity (name : String) (op : Operator) (args : List Expr)
      (hname : Operator.ofName? name = some op) (htakes : op.takes args.length = false) :
      Stuck (list (symbol name :: args))
  | lambdaShape (name : String) (op : Operator) (x found : Expr)
      (hname : Operator.ofName? name = some op) (hop : op.isEach = true)
      (hfound : ∀ param body, found ≠ lambda param body) : Stuck (list [symbol name, x, found])

/-- What may be wrong with a list itself: it is empty, its head is no operator, or its operator
refuses something. -/
inductive Faulty : Expr → QueryError → Prop where
  | empty : Faulty (list []) (.malformed 0 .emptyApplication)
  | unknown (head : Expr) (args : List Expr) :
      Faulty (list (head :: args)) (.unknownOperator head.render)
  | refused (name : String) (op : Operator) (args : List Expr) (error : QueryError)
      (hname : Operator.ofName? name = some op) (herror : error.operator? = some op) :
      Faulty (list (symbol name :: args)) error

/-- A stuck list gives the same error in every scope. -/
theorem Stuck.eval_eq [Regexes] [Sorting] {e : Expr} (h : e.Stuck) (s : Source) :
    ∃ error, e.Faulty error ∧ ∀ scope, s.eval e scope = .error error := by
  cases h with
  | empty => exact ⟨_, .empty, fun scope => by simp only [Source.eval]⟩
  | head head args h =>
    refine ⟨_, .unknown head args, fun scope => ?_⟩
    cases head with
    | symbol name => exact absurd rfl (h name)
    | text | number | list => simp only [Source.eval]
  | unknown name args h =>
    refine ⟨_, .unknown (symbol name) args, fun scope => ?_⟩
    simp only [Source.eval, h, render]
  | arity name op args hname htakes =>
    refine ⟨.arity op args.length, .refused name op args _ hname rfl, fun scope => ?_⟩
    cases hop : op.isEach with
    | false =>
      have hlength : (args.map (s.eval · scope)).length = args.length := List.length_map _
      rw [Source.eval_apply hname hop, Source.apply_of_not_takes (hlength ▸ htakes), hlength]
    | true =>
      have hne : args.length ≠ 2 := fun h => by
        rw [(Operator.takes_iff_of_isEach hop).2 h] at htakes
        cases htakes
      exact Source.eval_of_length_ne hname hop hne
  | lambdaShape name op x found hname hop hfound =>
    exact ⟨.lambdaShape op found, .refused name op [x, found] _ hname rfl,
      fun scope => Source.eval_of_not_lambda hname hop hfound⟩

/-- Induction along what is evaluated: the arguments of an operator, or the list and the body of a
lambda. -/
theorem evaluation_induction {motive : Expr → Prop} (text : ∀ s, motive (text s))
    (number : ∀ x, motive (number x)) (symbol : ∀ name, motive (symbol name))
    (stuck : ∀ e, e.Stuck → motive e)
    (arguments : ∀ name op args, Operator.ofName? name = some op → op.isEach = false →
      op.takes args.length = true → (∀ a ∈ args, motive a) →
      motive (list (.symbol name :: args)))
    (each : ∀ name op x param body, Operator.ofName? name = some op → op.isEach = true →
      motive x → motive body → motive (list [.symbol name, x, lambda param body])) (e : Expr) :
    motive e := by
  have ih (e' : Expr) (h : sizeOf e' < sizeOf e) : motive e' :=
    evaluation_induction text number symbol stuck arguments each e'
  match e with
  | .text s => exact text s
  | .number x => exact number x
  | .symbol name => exact symbol name
  | .list [] => exact stuck _ .empty
  | .list (.text s :: args) => exact stuck _ (.head _ args nofun)
  | .list (.number x :: args) => exact stuck _ (.head _ args nofun)
  | .list (.list items :: args) => exact stuck _ (.head _ args nofun)
  | .list (.symbol name :: args) =>
    cases hname : Operator.ofName? name with
    | none => exact stuck _ (.unknown name args hname)
    | some op =>
      cases htakes : op.takes args.length with
      | false => exact stuck _ (.arity name op args hname htakes)
      | true =>
        cases hop : op.isEach with
        | false =>
          refine arguments name op args hname hop htakes fun a ha => ih a ?_
          have hlt := List.sizeOf_lt_of_mem ha
          simp
          omega
        | true =>
          obtain ⟨x, found, rfl⟩ : ∃ x found, args = [x, found] :=
            List.length_eq_two.1 ((Operator.takes_iff_of_isEach hop).1 htakes)
          by_cases hfound : ∃ param body, found = lambda param body
          · obtain ⟨param, body, rfl⟩ := hfound
            refine each name op x param body hname hop (ih x ?_) (ih body ?_)
            · simp
              omega
            · simp [lambda]
              omega
          · refine stuck _ (.lambdaShape name op x found hname hop ?_)
            exact fun param body h => hfound ⟨param, body, h⟩
  termination_by sizeOf e

end Expr

end CodeSnapshot

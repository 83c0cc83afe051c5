import CodeSnapshot.Query.Value

/-!
# Names and their values

A session binds the result of each turn to a name of its own, and the latest result to `RESULTS`.
Inside a lambda, the parameters stand before the names of the session, the innermost first.
-/

namespace CodeSnapshot

/-- The names bound in a session. -/
abbrev Bindings := StringMap Value

namespace Bindings

/-- The name of the latest result. -/
def resultsName : String := "RESULTS"

/-- The name of the result of a turn. -/
def turnName (turn : Nat) : String :=
  "_" ++ toString turn

/-- Binds the result of a turn. -/
def record (b : Bindings) (turn : Nat) (v : Value) : Bindings :=
  (b.insert (turnName turn) v).insert resultsName v

end Bindings

/-- The names that an expression can use. -/
structure Scope where
  session : Bindings
  /-- parameters, the innermost first -/
  params : List (String × Value) := []

namespace Scope

/-- The scope of a command. -/
def root (session : Bindings) : Scope := { session }

/-- The scope inside a lambda. -/
def child (s : Scope) (name : String) (v : Value) : Scope :=
  { s with params := (name, v) :: s.params }

/-- The innermost value of a name. -/
def lookup? (s : Scope) (name : String) : Option Value :=
  match s.params.find? (·.1 == name) with
  | some (_, v) => some v
  | none => s.session.get? name

theorem lookup?_child_self (s : Scope) (name : String) (v : Value) :
    (s.child name v).lookup? name = some v := by
  simp [lookup?, child]

theorem lookup?_child_ne (s : Scope) {name other : String} (v : Value) (h : name ≠ other) :
    (s.child name v).lookup? other = s.lookup? other := by
  simp [lookup?, child, h]

end Scope

end CodeSnapshot

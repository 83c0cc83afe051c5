import CodeSnapshot.Decimal.Double
import CodeSnapshot.Text.Quoted

/-!
# Expressions of the query language

A command is a list in parentheses whose first item names an operator. Texts stand between double
quotes, numbers and symbols stand as they are.
-/

namespace CodeSnapshot

/-- An expression. -/
inductive Expr where
  | text (s : String)
  | number (x : Double)
  | symbol (name : String)
  | list (items : List Expr)
  deriving Repr, Inhabited

namespace Expr

def symbol? : Expr → Option String
  | symbol name => some name
  | _ => none

/-- The symbol that a list begins with. -/
def head? : Expr → Option String
  | list (item :: _) => item.symbol?
  | _ => none

/-! ## Writing -/

mutual

/-- An expression as text. -/
def render : Expr → String
  | text s => Text.quoted s
  | number x => String.ofList x.toText
  | symbol name => name
  | list items => "(" ++ " ".intercalate (renderAll items) ++ ")"

def renderAll : List Expr → List String
  | [] => []
  | item :: items => item.render :: renderAll items

end

/-! ## Measures -/

mutual

/-- How many lists lie inside each other. -/
def depth : Expr → Nat
  | list items => depthAll items + 1
  | _ => 0

def depthAll : List Expr → Nat
  | [] => 0
  | item :: items => max item.depth (depthAll items)

end

end Expr

end CodeSnapshot

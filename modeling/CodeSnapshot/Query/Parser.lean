import CodeSnapshot.Query.Token

/-!
# Parsing expressions

Tokens are read from left to right with the lists that are still open on a stack, innermost first.
A completed expression goes into the innermost open list, or is the result when no list is open.
-/

namespace CodeSnapshot.Expr

/-- How deeply lists may be nested. -/
def depthLimit : Nat := 64

/-- Whether an atom begins like a number: with a digit, or with a hyphen and a digit. -/
def startsNumeric (atom : List Char) : Bool :=
  match atom with
  | '-' :: c :: _ => Decimal.isDigit c
  | c :: _ => Decimal.isDigit c
  | [] => false

/-- An atom that begins like a number and is one is a number, any other atom is a symbol. -/
def ofAtom (atom : List Char) : Expr :=
  if startsNumeric atom then
    match Double.ofText? atom with
    | some x => number x
    | none => symbol (String.ofList atom)
  else symbol (String.ofList atom)

/-- A list that is still open: the position of its parenthesis and its items, newest first. -/
structure OpenList where
  position : Nat
  items : List Expr

/-- What becomes of a completed expression: it is the result, or it goes into the innermost open
list. -/
def deliver (e : Expr) : List OpenList → Expr ⊕ List OpenList
  | [] => .inl e
  | l :: opened => .inr ({ l with items := e :: l.items } :: opened)

/-- Reads the expression that tokens make up, with some lists open; `stop` is the position behind
the text. -/
def ofTokens (stop : Nat) : List OpenList → List (Nat × Token) → Except QueryError Expr
  | [], [] => .error (.malformed stop .emptyInput)
  | l :: _, [] => .error (.malformed l.position .unbalancedOpen)
  | opened, (position, token) :: rest =>
    let complete (e : Expr) (opened : List OpenList) : Except QueryError Expr :=
      match deliver e opened with
      | .inr opened => ofTokens stop opened rest
      | .inl e =>
        match rest with
        | [] => .ok e
        | (position, _) :: _ => .error (.malformed position .trailingInput)
    match token with
    | .text chars => complete (text (String.ofList chars)) opened
    | .atom chars => complete (ofAtom chars) opened
    | .opening =>
      if depthLimit ≤ opened.length then .error (.malformed position .tooDeep)
      else ofTokens stop (⟨position, []⟩ :: opened) rest
    | .closing =>
      match opened with
      | [] => .error (.malformed position .unexpectedClose)
      | l :: opened => complete (list l.items.reverse) opened

/-- Parses exactly one expression. -/
def parse (source : String) : Except QueryError Expr :=
  match Token.ofChars source.toList with
  | .error e => .error e
  | .ok tokens => ofTokens source.utf8ByteSize [] tokens

end CodeSnapshot.Expr

import CodeSnapshot.Query.Operator
import CodeSnapshot.Query.Token

/-!
# Commands in free text

A reply in free text may hold a command. It is the first opening parenthesis that is followed by an
operator and that is closed again, up to the parenthesis that closes it; parentheses inside quoted
texts do not count.
-/

namespace CodeSnapshot.Command

/-- Whether the text behind an opening parenthesis begins with an operator. -/
def startsWithOperator (text : List Char) : Bool :=
  let head := (Text.trimStart text).takeWhile (! Token.isDelimiter ·)
  Operator.all.any fun op => op.name.toList == head

/-- Where the balance of parentheses is counted. -/
inductive Balance where
  | plain
  | quoted
  | escaped
  deriving Repr, DecidableEq

/-- The text up to the parenthesis that brings the number of open ones down to zero. -/
def balanced? : (opened : Nat) → Balance → List Char → Option (List Char)
  | _, _, [] => none
  | n, .escaped, c :: rest => (balanced? n .quoted rest).map (c :: ·)
  | n, .quoted, c :: rest =>
    let next := if c = '\\' then Balance.escaped else if c = '"' then .plain else .quoted
    (balanced? n next rest).map (c :: ·)
  | n, .plain, c :: rest =>
    if c = '"' then (balanced? n .quoted rest).map (c :: ·)
    else if c = '(' then (balanced? (n + 1) .plain rest).map (c :: ·)
    else if c = ')' then
      if n ≤ 1 then some [c] else (balanced? (n - 1) .plain rest).map (c :: ·)
    else (balanced? n .plain rest).map (c :: ·)

@[simp] theorem balanced?_nil (n : Nat) (b : Balance) : balanced? n b [] = none := by
  cases b <;> rfl

@[simp] theorem balanced?_escaped_cons (n : Nat) (c : Char) (rest : List Char) :
    balanced? n .escaped (c :: rest) = (balanced? n .quoted rest).map (c :: ·) := rfl

@[simp] theorem balanced?_quoted_cons (n : Nat) (c : Char) (rest : List Char) :
    balanced? n .quoted (c :: rest) =
      (balanced? n (if c = '\\' then .escaped else if c = '"' then .plain else .quoted) rest).map
        (c :: ·) := rfl

@[simp] theorem balanced?_plain_cons (n : Nat) (c : Char) (rest : List Char) :
    balanced? n .plain (c :: rest) =
      if c = '"' then (balanced? n .quoted rest).map (c :: ·)
      else if c = '(' then (balanced? (n + 1) .plain rest).map (c :: ·)
      else if c = ')' then
        if n ≤ 1 then some [c] else (balanced? (n - 1) .plain rest).map (c :: ·)
      else (balanced? n .plain rest).map (c :: ·) := rfl

/-- The first command in a text. -/
def findChars? : List Char → Option (List Char)
  | [] => none
  | c :: rest =>
    if c = '(' && startsWithOperator rest then
      match balanced? 0 .plain (c :: rest) with
      | some command => some command
      | none => findChars? rest
    else findChars? rest

/-- The first command in a text. -/
def find? (text : String) : Option String :=
  (findChars? text.toList).map String.ofList

end CodeSnapshot.Command

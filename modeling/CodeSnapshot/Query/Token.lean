import CodeSnapshot.Query.Error
import CodeSnapshot.Text.Blank

/-!
# Tokens of the query language

A command is cut into parentheses, quoted texts and atoms by one pass over its characters. Inside
quotes a backslash before `n`, `t`, a quote or a backslash is an escape; before anything else it
stays, so that patterns can be written as they are. Each token carries the number of bytes before
it.
-/

namespace CodeSnapshot

/-- A token. -/
inductive Token where
  | opening
  | closing
  | text (chars : List Char)
  | atom (chars : List Char)
  deriving Repr, DecidableEq

namespace Token

/-- A character that ends an atom. -/
def isDelimiter (c : Char) : Bool :=
  Text.isBlank c || c == '(' || c == ')' || c == '"'

/-- Where the scan stands: between tokens, or inside one that began at a position; its characters
so far are kept newest first. -/
inductive Scan where
  | between
  | inText (start : Nat) (chars : List Char)
  | escaped (start : Nat) (chars : List Char)
  | inAtom (start : Nat) (chars : List Char)
  deriving Repr, DecidableEq

/-- The characters that a backslash and the character behind it stand for, newest first. -/
def unescape (c : Char) : List Char :=
  match c with
  | 'n' => ['\n']
  | 't' => ['\t']
  | '"' => ['"']
  | '\\' => ['\\']
  | c => [c, '\\']

/-- The tokens of a text, each with its position. -/
def scan : (position : Nat) → Scan → List Char → Except QueryError (List (Nat × Token))
  | _, .between, [] => .ok []
  | _, .inAtom start chars, [] => .ok [(start, .atom chars.reverse)]
  | _, .inText start _, [] | _, .escaped start _, [] =>
    .error (.malformed start .unterminatedText)
  | n, .inText start chars, c :: rest =>
    let next := n + c.utf8Size
    if c = '"' then
      (scan next .between rest).map fun ts => (start, .text chars.reverse) :: ts
    else if c = '\\' then scan next (.escaped start chars) rest
    else scan next (.inText start (c :: chars)) rest
  | n, .escaped start chars, c :: rest =>
    scan (n + c.utf8Size) (.inText start (unescape c ++ chars)) rest
  | n, .inAtom start chars, c :: rest =>
    let next := n + c.utf8Size
    let atom := (start, Token.atom chars.reverse)
    if Text.isBlank c then (scan next .between rest).map fun ts => atom :: ts
    else if c = '(' then (scan next .between rest).map fun ts => atom :: (n, .opening) :: ts
    else if c = ')' then (scan next .between rest).map fun ts => atom :: (n, .closing) :: ts
    else if c = '"' then (scan next (.inText n []) rest).map fun ts => atom :: ts
    else scan next (.inAtom start (c :: chars)) rest
  | n, .between, c :: rest =>
    let next := n + c.utf8Size
    if Text.isBlank c then scan next .between rest
    else if c = '(' then (scan next .between rest).map fun ts => (n, .opening) :: ts
    else if c = ')' then (scan next .between rest).map fun ts => (n, .closing) :: ts
    else if c = '"' then scan next (.inText n []) rest
    else scan next (.inAtom n [c]) rest

@[simp] theorem scan_between_nil (n : Nat) : scan n .between [] = .ok [] := rfl

@[simp] theorem scan_inAtom_nil (n start : Nat) (chars : List Char) :
    scan n (.inAtom start chars) [] = .ok [(start, .atom chars.reverse)] := rfl

@[simp] theorem scan_inText_nil (n start : Nat) (chars : List Char) :
    scan n (.inText start chars) [] = .error (.malformed start .unterminatedText) := rfl

@[simp] theorem scan_escaped_nil (n start : Nat) (chars : List Char) :
    scan n (.escaped start chars) [] = .error (.malformed start .unterminatedText) := rfl

@[simp] theorem scan_inText_cons (n start : Nat) (chars : List Char) (c : Char)
    (rest : List Char) :
    scan n (.inText start chars) (c :: rest) =
      if c = '"' then
        (scan (n + c.utf8Size) .between rest).map fun ts => (start, .text chars.reverse) :: ts
      else if c = '\\' then scan (n + c.utf8Size) (.escaped start chars) rest
      else scan (n + c.utf8Size) (.inText start (c :: chars)) rest := rfl

@[simp] theorem scan_escaped_cons (n start : Nat) (chars : List Char) (c : Char)
    (rest : List Char) :
    scan n (.escaped start chars) (c :: rest) =
      scan (n + c.utf8Size) (.inText start (unescape c ++ chars)) rest := rfl

@[simp] theorem scan_between_cons (n : Nat) (c : Char) (rest : List Char) :
    scan n .between (c :: rest) =
      if Text.isBlank c then scan (n + c.utf8Size) .between rest
      else if c = '(' then
        (scan (n + c.utf8Size) .between rest).map fun ts => (n, .opening) :: ts
      else if c = ')' then
        (scan (n + c.utf8Size) .between rest).map fun ts => (n, .closing) :: ts
      else if c = '"' then scan (n + c.utf8Size) (.inText n []) rest
      else scan (n + c.utf8Size) (.inAtom n [c]) rest := rfl

@[simp] theorem scan_inAtom_cons (n start : Nat) (chars : List Char) (c : Char)
    (rest : List Char) :
    scan n (.inAtom start chars) (c :: rest) =
      if Text.isBlank c then
        (scan (n + c.utf8Size) .between rest).map fun ts => (start, .atom chars.reverse) :: ts
      else if c = '(' then
        (scan (n + c.utf8Size) .between rest).map fun ts =>
          (start, .atom chars.reverse) :: (n, .opening) :: ts
      else if c = ')' then
        (scan (n + c.utf8Size) .between rest).map fun ts =>
          (start, .atom chars.reverse) :: (n, .closing) :: ts
      else if c = '"' then
        (scan (n + c.utf8Size) (.inText n []) rest).map fun ts =>
          (start, .atom chars.reverse) :: ts
      else scan (n + c.utf8Size) (.inAtom start (c :: chars)) rest := rfl

/-- The tokens of a text. -/
def ofChars (text : List Char) : Except QueryError (List (Nat × Token)) :=
  scan 0 .between text

end Token

end CodeSnapshot

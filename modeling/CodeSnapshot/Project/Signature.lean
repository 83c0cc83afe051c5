import CodeSnapshot.Text.Blank
import CodeSnapshot.Text.Piece

/-!
# Signatures of functions

The head of a function declaration: from the keyword through the parameters and the return type up
to the body, on one line.
-/

namespace CodeSnapshot.Signature

open Text

/-- How many characters there are up to and through the parenthesis that brings the number of open
ones down to zero. -/
def throughClose? : (opened : Nat) → List Char → Option Nat
  | _, [] => none
  | n, '(' :: rest => (throughClose? (n + 1) rest).map (· + 1)
  | n, ')' :: rest => if n ≤ 1 then some 1 else (throughClose? (n - 1) rest).map (· + 1)
  | n, _ :: rest => (throughClose? n rest).map (· + 1)

/-- How many characters there are through the parameters: the first parenthesis and what it
encloses. -/
def throughParameters? (text : List Char) : Option Nat :=
  let front := text.takeWhile (· ≠ '(')
  (throughClose? 0 (text.drop front.length)).map (· + front.length)

/-- The brackets that types have. -/
def openers : List Char := ['(', '[', '\x7b', '<']

def closers : List Char := [')', ']', '\x7d', '>']

/-- The characters behind which a type expects an operand, as it does behind an arrow. -/
def operators : List Char := [':', '|', '&', ',', '?']

/-- How many characters of a return type there are: up to the brace that opens the body, or to a
semicolon, or to the end. A brace where the type still expects an operand opens an object type,
which is part of the type. `depth` counts the brackets that are open, `expects` tells whether an
operand is expected. -/
def typeLength : (depth : Nat) → (expects : Bool) → List Char → Nat
  | _, _, [] => 0
  | depth, _, '=' :: '>' :: rest => typeLength depth true rest + 2
  | depth, expects, c :: rest =>
    if isBlank c then typeLength depth expects rest + 1
    else if c = '\x7b' && depth = 0 && !expects then 0
    else if c = ';' && depth = 0 then 0
    else if openers.contains c then typeLength (depth + 1) expects rest + 1
    else if closers.contains c then typeLength (depth - 1) false rest + 1
    else if operators.contains c then typeLength depth true rest + 1
    else typeLength depth false rest + 1

/-- The text without a word at its start, and without the blanks behind it. -/
def dropWord (word : String) (text : List Char) : List Char :=
  trimStart ((after? word.toList text).getD text)

/-- The words of a text, with one space between any two. -/
def collapse (text : List Char) : String :=
  joined " " ((words text).map String.ofList)

/-- The signature of a function whose declaration has been recognised up to `headEnd`; `text` starts
with the declaration. The words `export` and `default` are not part of it. -/
def ofDeclaration? (text : List Char) (headEnd : Nat) : Option String :=
  match throughParameters? (text.drop headEnd) with
  | none => none
  | some n =>
    let typeStart := headEnd + n
    let whole := text.take (typeStart + typeLength 0 false (text.drop typeStart))
    let signature := collapse (dropWord "default" (dropWord "export" (trim whole)))
    if signature.isEmpty then none else some signature

end CodeSnapshot.Signature

import CodeSnapshot.Pattern.Matching
import CodeSnapshot.Sorted.List

/-!
# Statements in source files

The patterns of import and export statements have parts in common, which are here; and so is the
order of what is found, which goes by the position in the file.
-/

namespace CodeSnapshot

/-- Something found in a file, and how many characters precede it. -/
structure Found (α : Type) where
  offset : Nat
  item : α
  deriving Repr, DecidableEq

namespace Found

variable {α : Type}

/-- In the order of positions; what stands at one position keeps its order. -/
def sorted (xs : List (Found α)) : List (Found α) :=
  sortedBy (fun x y => x.offset ≤ y.offset) xs

end Found

namespace Statement

open Pattern

/-- The positions at which the lines of a text start. -/
def lineStarts (text : List Char) : List Nat :=
  0 :: (text.zipIdx.filter (·.1 == '\n')).map (·.2 + 1)

/-- The line of a position, counted from one: how many lines start there or before. -/
def lineOf (starts : List Nat) (offset : Nat) : Nat :=
  (starts.takeWhile (· ≤ offset)).length

/-! ## Parts of the patterns -/

/-- The start of a line and the blanks a statement is indented by. -/
def indent : Pattern :=
  .seq (.place .lineStart) (many (CharClass.ofChars [' ', '\t']))

/-- At least one blank. -/
def gap : Pattern := many1 CharClass.blank

/-- Any number of blanks. -/
def space : Pattern := many CharClass.blank

def char (c : Char) : Pattern := .one (CharClass.single c)

/-- The characters of names. -/
def nameChar : CharClass := .union CharClass.word (CharClass.single '$')

/-- A name. -/
def name : Pattern := many1 nameChar

def quoteMark : CharClass := CharClass.ofChars ['\'', '"']

/-- A quoted specifier, which a group holds. -/
def quoted (number : Nat) : Pattern :=
  chain [.one quoteMark, .group number (many1 (.complement quoteMark)), .one quoteMark]

/-- The edge of a word. -/
def edge : Pattern := .place (.wordEdge CharClass.word)

/-- Characters up to a closing one. -/
def upTo (c : Char) : Pattern := many (.complement (CharClass.single c))

/-- What a group of a match holds; nothing when it took no part. -/
def textOf (m : Match) (number : Nat) : String :=
  String.ofList ((m.groupText? number).getD [])

/-- Whether a group took part in a match. -/
def has (m : Match) (number : Nat) : Bool :=
  (m.groupText? number).isSome

end Statement

end CodeSnapshot

/-!
# Runs of code points

A set of code points is written as text: items separated by blanks, each a hexadecimal code point
(`5F`), a closed interval (`41-5A`), or an interval of which every other point counts (`100-136/2`).
The tables of the character database in the modules beside this one are written this way.
-/

namespace CodeSnapshot.Unicode

/-- The code points `first`, `first + step`, … up to `last`. -/
structure Run where
  first : Nat
  last : Nat
  step : Nat
  deriving Repr, DecidableEq, Inhabited

namespace Run

def contains (r : Run) (n : Nat) : Bool :=
  r.first ≤ n && n ≤ r.last && (n - r.first) % r.step == 0

/-- The value of a hexadecimal digit; any other character counts as zero. -/
def digitValue (c : Char) : Nat :=
  if '0' ≤ c && c ≤ '9' then c.toNat - '0'.toNat
  else if 'A' ≤ c && c ≤ 'F' then c.toNat - 'A'.toNat + 10
  else if 'a' ≤ c && c ≤ 'f' then c.toNat - 'a'.toNat + 10
  else 0

def ofHex (digits : List Char) : Nat :=
  digits.foldl (fun n c => 16 * n + digitValue c) 0

/-- The run that one item of a table names. -/
def ofItem (item : List Char) : Run :=
  let (bounds, step) := (item.takeWhile (· ≠ '/'), item.dropWhile (· ≠ '/'))
  let (low, high) := (bounds.takeWhile (· ≠ '-'), bounds.dropWhile (· ≠ '-'))
  let first := ofHex low
  { first
    last := if high.isEmpty then first else ofHex (high.drop 1)
    step := if step.isEmpty then 1 else ofHex (step.drop 1) }

end Run

/-- The items of a table: maximal pieces without a space or a line feed. -/
def tableItems (table : List Char) : List (List Char) :=
  let (item, items) := table.foldr
    (fun c (item, items) =>
      if c = ' ' || c = '\n' then ([], if item.isEmpty then items else item :: items)
      else (c :: item, items))
    ([], [])
  if item.isEmpty then items else item :: items

/-- The runs that a table names. -/
def runs (table : String) : List Run :=
  (tableItems table.toList).map Run.ofItem

/-- Whether one of the runs holds the code point. -/
def inRuns (rs : List Run) (n : Nat) : Bool :=
  rs.any (·.contains n)

end CodeSnapshot.Unicode

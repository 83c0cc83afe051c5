/-!
# Operators of the query language
-/

namespace CodeSnapshot

/-- What a command can do. -/
inductive Operator where
  | grep
  | count
  | map
  | filter
  | first
  | last
  | take
  | sort
  | capture
  | lines
  | files
  | get
  | sum
  | not
  deriving Repr, DecidableEq

namespace Operator

/-- Every operator, in the order in which they are explained. -/
def all : List Operator :=
  [grep, count, map, filter, first, last, take, sort, capture, lines, files, get, sum, not]

def name : Operator → String
  | grep => "grep"
  | count => "count"
  | map => "map"
  | filter => "filter"
  | first => "first"
  | last => "last"
  | take => "take"
  | sort => "sort"
  | capture => "match"
  | lines => "lines"
  | files => "files"
  | get => "get"
  | sum => "sum"
  | not => "not"

/-- How a command with the operator is written. -/
def usage : Operator → String
  | grep => "(grep pattern [flags])"
  | count => "(count x)"
  | map | filter => "(map|filter x (lambda (p) body))"
  | first | last => "(first|last x)"
  | take => "(take x n)"
  | sort => "(sort x [key])"
  | capture => "(match value pattern [group])"
  | lines => "(lines start end)"
  | files => "(files)"
  | get => "(get x field)"
  | sum => "(sum x [key])"
  | not => "(not x)"

def ofName? (s : String) : Option Operator :=
  all.find? (·.name == s)

theorem ofName?_name (op : Operator) : ofName? op.name = some op := by
  cases op <;> decide

theorem name_of_ofName? {s : String} {op : Operator} (h : ofName? s = some op) : op.name = s := by
  have := List.find?_some h
  simpa using this

end Operator

end CodeSnapshot

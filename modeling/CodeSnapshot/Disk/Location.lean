import CodeSnapshot.Text.Piece

/-!
# Locations

Paths of the file system, as texts. Two texts are spellings of one location when they differ only
in repeated slashes, in slashes at the end, and in parts `.` behind the first; `normalForm` picks
one of them. Links and parts `..` are the business of `Disk`.
-/

namespace CodeSnapshot.Location

open Text

def isAbsolute (path : String) : Bool :=
  path.toList.head? == some '/'

/-- The parts between the slashes, as they stand. -/
def segments (path : String) : List String :=
  (splitAt '/' path.toList).map String.ofList

/-- The parts of a path without those that say nothing. A part `.` says something only at the start
of a relative path. -/
def parts (path : String) : List String :=
  match segments path with
  | "." :: rest => "." :: rest.filter (fun s => s ≠ "" && s ≠ ".")
  | all => all.filter (fun s => s ≠ "" && s ≠ ".")

/-- The path with some parts. -/
def ofParts (absolute : Bool) (parts : List String) : String :=
  (if absolute then "/" else "") ++ joined "/" parts

/-- The spelling of a location without anything that says nothing. -/
def normalForm (path : String) : String :=
  ofParts (isAbsolute path) (parts path)

/-- The name of the file that a path ends with. -/
def fileName? (path : String) : Option String :=
  match (parts path).getLast? with
  | some name => if name = "." || name = ".." then none else some name
  | none => none

/-- The path without its last part. -/
def parent? (path : String) : Option String :=
  match parts path with
  | [] => none
  | all => some (ofParts (isAbsolute path) all.dropLast)

/-- A path seen from a directory. -/
def join (directory path : String) : String :=
  if isAbsolute path || directory.isEmpty then path
  else if directory.toList.getLast? == some '/' then directory ++ path
  else directory ++ "/" ++ path

end CodeSnapshot.Location

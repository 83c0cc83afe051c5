import CodeSnapshot.Text.Blank
import CodeSnapshot.Text.Piece

/-!
# Paths inside a snapshot

Files of a snapshot are named by paths relative to its root, with forward slashes. A path from
outside is first brought into normal form; a relative specifier is then joined to a directory
segment by segment, and fails when it climbs above the root.
-/

namespace CodeSnapshot.Path

open Text

/-- The text without any number of leading `./`. -/
def dropDotSlashes : List Char → List Char
  | '.' :: '/' :: rest => dropDotSlashes rest
  | cs => cs

def isSlash (c : Char) : Bool :=
  c == '/'

/-- The text without the slashes at its two ends. -/
def trimSlashes (cs : List Char) : List Char :=
  ((cs.dropWhile isSlash).reverse.dropWhile isSlash).reverse

/-- Backslashes become slashes. -/
def slashed (cs : List Char) : List Char :=
  cs.map fun c => if c = '\\' then '/' else c

def normalizeChars (raw : List Char) : List Char :=
  let value := trimSlashes (dropDotSlashes (slashed (trim raw)))
  if value = ['.'] then [] else value

/-- The normal form of a path: forward slashes, no blanks around it, no leading `./`, no slashes at
its ends. The root, `.`, is the empty path. -/
def normalize (raw : String) : String :=
  String.ofList (normalizeChars raw.toList)

/-! ## Joining -/

/-- A segment that stands for its own directory. -/
def isIdle (segment : List Char) : Bool :=
  segment = [] || segment = ['.']

/-- Follows one segment from a directory, whose segments are listed innermost first. -/
def step? (stack : List (List Char)) (segment : List Char) : Option (List (List Char)) :=
  if isIdle segment then some stack
  else if segment = ['.', '.'] then
    match stack with
    | [] => none
    | _ :: above => some above
  else some (segment :: stack)

/-- The segments of a directory, innermost first. -/
def stackOf (directory : List Char) : List (List Char) :=
  ((splitAt '/' directory).filter (! isIdle ·)).reverse

/-- The path whose segments are listed innermost first. -/
def ofStack (stack : List (List Char)) : List Char :=
  joinWith ['/'] stack.reverse

def joinChars? (directory specifier : List Char) : Option (List Char) :=
  ((splitAt '/' specifier).foldlM step? (stackOf directory)).map ofStack

/-- The path that a relative specifier names from a directory, or `none` when it climbs above the
root. -/
def join? (directory specifier : String) : Option String :=
  (joinChars? directory.toList specifier.toList).map String.ofList

/-- What precedes the last slash; nothing when there is none. -/
def parentChars (path : List Char) : List Char :=
  ((path.reverse.dropWhile (! isSlash ·)).drop 1).reverse

/-- The directory of a file. -/
def parent (path : String) : String :=
  String.ofList (parentChars path.toList)

end CodeSnapshot.Path

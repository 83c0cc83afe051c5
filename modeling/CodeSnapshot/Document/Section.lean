import CodeSnapshot.Path

/-!
# Sections of a snapshot

A snapshot is a text in which files and tables are framed: a line of equals signs, a title, and
another line of equals signs, followed by the content. This module knows the frames, reading and
writing them.
-/

namespace CodeSnapshot

/-- What a section holds: a file, or a table about the project. -/
inductive Title where
  | file (path : String)
  | metadata (name : String)
  deriving Repr, DecidableEq

namespace Title

open Text

/-- The fewest equals signs that separate. -/
def leastSeparator : Nat := 20

/-- The line that is written to separate. -/
def separator : String :=
  String.ofList (List.replicate 80 '=')

def isSeparator (line : String) : Bool :=
  let signs := trimEnd line.toList
  leastSeparator ≤ signs.length && signs.all (· = '=')

def fileMark : List Char := "FILE: ".toList

def metadataMark : List Char := "METADATA: ".toList

/-- The title that a line is. A file needs a path that is not the root, a table needs a name; names
of tables are read in capitals. -/
def ofLine? (line : String) : Option Title :=
  let line := trimEnd line.toList
  match after? fileMark line with
  | some rest =>
    let path := Path.normalizeChars rest
    if path.isEmpty then none else some (.file (String.ofList path))
  | none =>
    match after? metadataMark line with
    | some rest =>
      let name := trim rest
      if name.isEmpty then none else some (.metadata (String.ofList (name.map Char.toUpper)))
    | none => none

/-- The title of the frame that the first three lines are. -/
def ofFrame? : List String → Option Title
  | a :: title :: b :: _ => if isSeparator a && isSeparator b then ofLine? title else none
  | _ => none

/-- The lines of a frame. -/
def frameLines : Nat := 3

/-- The frames among some lines, each with the index of its first line; the search goes on behind a
frame that was found. -/
def frames : (index : Nat) → List String → List (Nat × Title)
  | _, [] => []
  | index, line :: lines =>
    match lines with
    | title :: b :: rest =>
      match ofFrame? [line, title, b] with
      | some t => (index, t) :: frames (index + frameLines) rest
      | none => frames (index + 1) (title :: b :: rest)
    | lines => frames (index + 1) lines

/-! ## Writing -/

/-- A frame around a title line. -/
def frame (title : String) : String :=
  separator ++ "\n" ++ title ++ "\n" ++ separator ++ "\n"

/-- A file as a section: its content ends with a line feed (unless it is empty), and a blank line
follows. -/
def renderFile (path content : String) : String :=
  let ending := if content.isEmpty || content.endsWith "\n" then "" else "\n"
  frame ("FILE: ./" ++ Path.normalize path) ++ content ++ ending ++ "\n"

/-- The frame of a table. -/
def renderMetadata (name : String) : String :=
  frame ("METADATA: " ++ name)

end Title

end CodeSnapshot

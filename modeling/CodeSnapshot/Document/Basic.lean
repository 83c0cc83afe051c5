import CodeSnapshot.Document.Lines
import CodeSnapshot.Document.Metadata

/-!
# Snapshot documents

A parsed snapshot: its lines, the lines before the first section, which lines each file takes up,
and the tables it carries.
-/

namespace CodeSnapshot

/-- The lines that a file takes up: first and last, counted from one. -/
structure FileRange where
  first : Nat
  last : Nat
  deriving Repr, DecidableEq, Inhabited

namespace FileRange

def length (r : FileRange) : Nat :=
  r.last + 1 - r.first

def isEmpty (r : FileRange) : Bool :=
  r.last < r.first

def contains (r : FileRange) (line : Nat) : Bool :=
  r.first ≤ line && line ≤ r.last

end FileRange

/-- A parsed snapshot, with the path it was read from and when that was last changed. -/
structure Document where
  path : String
  modified : Nat
  lines : Lines
  /-- how many lines precede the first section -/
  headerEnd : Nat
  /-- the files in the order of their sections -/
  order : List String
  ranges : List (String × FileRange)
  metadata : Metadata
  deriving Repr, DecidableEq, Inhabited

/-- Figures about a document. -/
structure DocumentStats where
  lines : Nat
  chars : Nat
  files : Nat
  deriving Repr, DecidableEq, Inhabited

namespace Document

/-- A section: its title, and its content from one index up to, not including, another. -/
structure Section where
  title : Title
  start : Nat
  stop : Nat
  deriving Repr, DecidableEq

/-- Where the content of a section stops that runs up to `limit`: one blank line at its end is not
part of it. -/
def contentStop (lines : List String) (start limit : Nat) : Nat :=
  if start < limit && (Text.trim (lines.getD (limit - 1) "").toList).isEmpty then limit - 1
  else limit

/-- The sections that frames introduce; each runs up to the next frame. -/
def sections (lines : List String) : List (Nat × Title) → List Section
  | [] => []
  | (index, title) :: rest =>
    let start := index + Title.frameLines
    let limit := match rest with
      | (next, _) :: _ => next
      | [] => lines.length
    ⟨title, start, contentStop lines start limit⟩ :: sections lines rest

/-- The files found so far: their order, newest first, and their ranges. -/
structure Listing where
  order : List String := []
  ranges : List (String × FileRange) := []

def Listing.range? (l : Listing) (path : String) : Option FileRange :=
  (l.ranges.find? (·.1 == path)).map (·.2)

/-- Lists the file of a section. An empty section gives no range; of several sections with one path
the last one that is not empty does. A path is put in order when it has no range yet. -/
def Listing.add (l : Listing) (s : Section) : Listing :=
  match s.title with
  | .metadata _ => l
  | .file path =>
    let order := if (l.range? path).isSome then l.order else path :: l.order
    if s.stop ≤ s.start then { l with order }
    else
      { order
        ranges := (path, ⟨s.start + 1, s.stop⟩) :: l.ranges.filter (·.1 != path) }

/-- The lines between two indices. -/
def between (lines : List String) (start stop : Nat) : List String :=
  (lines.take stop).drop start

/-- The tables among the sections. -/
def tables (lines : List String) (ss : List Section) : List (String × List String) :=
  ss.filterMap fun s =>
    match s.title with
    | .metadata name => some (name, between lines s.start s.stop)
    | .file _ => none

/-- Parses a snapshot. -/
def parse (path : String) (modified : Nat) (text : String) : Document :=
  let lines := Lines.ofText text
  let texts := lines.texts
  let frames := Title.frames 0 texts
  let ss := sections texts frames
  let listing := ss.foldl Listing.add {}
  { path, modified, lines
    headerEnd := match frames with
      | (index, _) :: _ => index
      | [] => texts.length
    order := (listing.order.filter fun p => (listing.range? p).isSome).reverse
    ranges := listing.ranges
    metadata := Metadata.ofSections (tables texts ss) }

/-- The lines before the first section. -/
def header (d : Document) : List String :=
  (d.lines.slice 1 d.headerEnd).map (·.text)

/-- The range of a path that is in normal form. -/
def range? (d : Document) (path : String) : Option FileRange :=
  (d.ranges.find? (·.1 == path)).map (·.2)

/-- The range of a path. -/
def fileRange? (d : Document) (path : String) : Option FileRange :=
  d.range? (Path.normalize path)

/-- The files with their ranges, in the order of the snapshot. -/
def files (d : Document) : List (String × FileRange) :=
  d.order.filterMap fun path => (d.range? path).map (path, ·)

def fileCount (d : Document) : Nat :=
  d.ranges.length

/-- The lines of a range, joined by line feeds. -/
def textOf (d : Document) (r : FileRange) : String :=
  Text.joined "\n" ((d.lines.slice r.first r.last).map (·.text))

/-- The content of a file. -/
def fileContent? (d : Document) (path : String) : Option String :=
  (d.fileRange? path).map d.textOf

/-- The file that a line belongs to. -/
def fileAtLine? (d : Document) (line : Nat) : Option (String × FileRange) :=
  d.files.find? (·.2.contains line)

def stats (d : Document) : DocumentStats :=
  ⟨d.lines.size, d.lines.chars, d.fileCount⟩

end Document

end CodeSnapshot

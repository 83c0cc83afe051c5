import CodeSnapshot.Disk.Location
import CodeSnapshot.Document.Error
import CodeSnapshot.Sorted.Map

/-!
# Disks

What a file system holds at one moment: files with their texts and times, directories, and links.
`canonical?` gives the one path of a location that has neither links nor parts `.` and `..`; files
and directories are known by these paths.
-/

namespace CodeSnapshot

/-- Something that has a path of its own. -/
inductive Node where
  /-- a file: its text (nothing when it is not UTF-8), and when it was last changed, in seconds -/
  | file (text : Option String) (modified : Nat)
  | directory
  | link (target : String)
  deriving Repr, DecidableEq, Inhabited

/-- The nodes of a file system by their canonical paths (the root is always there), and the
directory from which relative paths start. -/
structure Disk where
  nodes : StringMap Node := .empty
  workingDirectory : String := "/"
  deriving Repr, DecidableEq, Inhabited

namespace Disk

/-- The canonical path of a directory's entry. The names of the directory are listed innermost
first. -/
def pathOf (names : List String) : String :=
  Location.ofParts true names.reverse

/-- The node at a canonical path, whose names are listed innermost first. -/
def nodeAt? (d : Disk) (names : List String) : Option Node :=
  match names with
  | [] => some .directory
  | names => d.nodes.get? (pathOf names)

/-! ## Canonical paths -/

/-- How many links may be followed on the way to one location. -/
def linkLimit : Nat := 40

/-- How many bytes a name may have. -/
def nameLimit : Nat := 255

/-- Follows segments from a place, given by its names, innermost first. Only a directory can be gone
on from; `links` counts the links that may still be followed. -/
def walk (d : Disk) : (fuel links : Nat) → (names : List String) → (segments : List String) →
    Except FileError (List String)
  | _, _, names, [] => .ok names
  | 0, _, _, _ :: _ => .error .tooManyLinks
  | fuel + 1, links, names, segment :: rest =>
    if d.nodeAt? names != some .directory then .error .notDirectory
    else if segment = "" || segment = "." then walk d fuel links names rest
    else if segment = ".." then walk d fuel links (names.drop 1) rest
    else if nameLimit < segment.utf8ByteSize then .error .nameTooLong
    else
      match d.nodeAt? (segment :: names) with
      | none => .error .notFound
      | some (.link target) =>
        if links = 0 then .error .tooManyLinks
        else
          walk d fuel (links - 1) (if Location.isAbsolute target then [] else names)
            (Location.segments target ++ rest)
      | some _ => walk d fuel links (segment :: names) rest

/-- The most segments that a link of the disk has. -/
def longestLink (d : Disk) : Nat :=
  (d.nodes.entries.map fun
    | (_, .link target) => (Location.segments target).length
    | _ => 0).foldl max 0

/-- The canonical path of a location. -/
def canonical? (d : Disk) (path : String) : Except FileError String :=
  if path.isEmpty then .error .notFound
  else if path.toList.contains '\x00' then .error .invalidName
  else
    let segments := Location.segments (Location.join d.workingDirectory path)
    let fuel := segments.length + linkLimit * d.longestLink + linkLimit
    (d.walk fuel linkLimit [] segments).map pathOf

/-! ## Files -/

/-- What is at a canonical path. -/
def node? (d : Disk) (path : String) : Option Node :=
  if path = "/" then some .directory else d.nodes.get? path

/-- When the file at a canonical path was last changed. A directory has a time of its own, which is
none of a file's. -/
def modified? (d : Disk) (path : String) : Except FileError (Option Nat) :=
  match d.node? path with
  | some (.file _ time) => .ok (some time)
  | some _ => .ok none
  | none => .error .notFound

/-- The bytes of a file: its text, or nothing when they are no text. -/
def read? (d : Disk) (path : String) : Except FileError (Option String) :=
  (d.canonical? path).bind fun path =>
    match d.node? path with
    | some (.file text _) => .ok text
    | _ => .error .isDirectory

/-- Whether a location is a file. -/
def isFile (d : Disk) (path : String) : Bool :=
  match d.canonical? path with
  | .ok path =>
    match d.node? path with
    | some (.file ..) => true
    | _ => false
  | .error _ => false

/-! ## Changes -/

/-- The canonical path of a location whose last part need not exist, and is not followed. -/
def ownPlace? (d : Disk) (path : String) : Except FileError String :=
  match Location.fileName? path with
  | none => .error .isDirectory
  | some name =>
    let directory := (Location.parent? path).getD ""
    (d.canonical? (if directory.isEmpty then "." else directory)).map fun directory =>
      Location.join directory name

/-- The canonical path of a location, which need not exist. -/
def target? (d : Disk) (path : String) : Except FileError String :=
  match d.canonical? path with
  | .ok path => .ok path
  | .error _ => d.ownPlace? path

/-- The disk with a node at a canonical path. -/
def put (d : Disk) (path : String) (node : Node) : Disk :=
  { d with nodes := d.nodes.insert path node }

/-- The disk without the node at a canonical path. -/
def erase (d : Disk) (path : String) : Disk :=
  { d with nodes := d.nodes.erase path }

/-- Changes the time of a file. -/
def touch (d : Disk) (path : String) (modified : Nat) : Disk :=
  match d.nodes.get? path with
  | some (.file text _) => d.put path (.file text modified)
  | _ => d

end Disk

end CodeSnapshot

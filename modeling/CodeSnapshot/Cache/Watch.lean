import CodeSnapshot.Cache.Documents
import CodeSnapshot.Sorted.Set

/-!
# Watching files

The files whose documents are forgotten as soon as they change. What is registered with the
operating system is not a file but its directory, because a file that is saved may be replaced by
another one; a directory is registered as long as one of its files is listed.
-/

namespace CodeSnapshot

/-- The canonical paths of the files that are watched, and the directories that are registered. -/
structure Watch where
  listed : StringSet := .empty
  registered : StringSet := .empty
  deriving DecidableEq, Inhabited

namespace Watch

/-- The path of a file by the canonical path of its directory, so that it is known also while the
file is missing. -/
def pathOf? (disk : Disk) (path : String) : Except SnapshotError String :=
  match Location.fileName? path with
  | none => .error (.watcher (path ++ " is not a file path"))
  | some name =>
    let directory := (Location.parent? path).getD ""
    match disk.canonical? (if directory.isEmpty then "." else directory) with
    | .ok directory => .ok (Location.join directory name)
    | .error e => .error (.file e)

/-- Whether a file in a directory is listed. -/
def covers (w : Watch) (directory : String) : Bool :=
  w.listed.toList.any fun path => Location.parent? path == some directory

/-- Lists a file. -/
def add (w : Watch) (disk : Disk) (path : String) : Except SnapshotError Watch :=
  (pathOf? disk path).map fun path =>
    if w.listed.contains path then w
    else
      let directory := (Location.parent? path).getD "/"
      { listed := w.listed.insert path
        registered :=
          if w.covers directory then w.registered else w.registered.insert directory }

/-- Takes a file off the list. -/
def remove (w : Watch) (disk : Disk) (path : String) : Watch :=
  let path := match pathOf? disk path with
    | .ok path => path
    | .error _ => Location.normalForm path
  match Location.parent? path with
  | none => w
  | some directory =>
    if !w.listed.contains path then w
    else
      let rest := { w with listed := w.listed.erase path }
      if rest.covers directory then rest
      else { rest with registered := rest.registered.erase directory }

def size (w : Watch) : Nat :=
  w.listed.size

/-- The cache after the file at a canonical path was changed, made or removed. -/
def changed (w : Watch) (disk : Disk) (path : String) (c : DocumentCache) : DocumentCache :=
  if w.listed.contains path then (c.invalidate disk path).2 else c

end Watch

end CodeSnapshot

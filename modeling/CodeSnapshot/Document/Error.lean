/-!
# What can go wrong with a snapshot
-/

namespace CodeSnapshot

/-- Why the file system refuses a request. -/
inductive FileError where
  | notFound
  | notDirectory
  | isDirectory
  | nameTooLong
  | tooManyLinks
  /-- a path holds the character NUL -/
  | invalidName
  deriving Repr, DecidableEq

namespace FileError

/-- The number by which the operating system knows an error, if it is one of its own. -/
def code? : FileError → Option Nat
  | .notFound => some 2
  | .notDirectory => some 20
  | .isDirectory => some 21
  | .nameTooLong => some 36
  | .tooManyLinks => some 40
  | .invalidName => none

def description : FileError → String
  | .notFound => "No such file or directory"
  | .notDirectory => "Not a directory"
  | .isDirectory => "Is a directory"
  | .nameTooLong => "File name too long"
  | .tooManyLinks => "Too many levels of symbolic links"
  | .invalidName => "file name contained an unexpected NUL byte"

def message (e : FileError) : String :=
  match e.code? with
  | some n => e.description ++ s!" (os error {n})"
  | none => e.description

end FileError

/-- Why a snapshot cannot be read, searched or watched. -/
inductive SnapshotError where
  | file (cause : FileError)
  | notText (path : String)
  | fileNotFound (path : String)
  | invalidPattern (detail : String)
  | watcher (detail : String)
  deriving Repr, DecidableEq

namespace SnapshotError

def message : SnapshotError → String
  | .file cause => "IO error: " ++ cause.message
  | .notText path => "Snapshot is not valid UTF-8: " ++ path
  | .fileNotFound path => "File not found in snapshot: " ++ path
  | .invalidPattern detail => "Invalid pattern: " ++ detail
  | .watcher detail => "Watcher error: " ++ detail

/-- Whether the error is that a snapshot has no such file. -/
def isFileNotFound : SnapshotError → Bool
  | .fileNotFound _ => true
  | _ => false

end SnapshotError

end CodeSnapshot

import CodeSnapshot.Cache.Recent
import CodeSnapshot.Disk.Basic
import CodeSnapshot.Document.Search

/-!
# A cache of documents

Documents that were parsed are kept by the canonical path of their file, and parsed anew only when
the file has another time than it had then. Whoever was given a document keeps it, whatever happens
to the cache or to the file later.
-/

namespace CodeSnapshot

/-- A document, and by which parse it was made. -/
structure Handle where
  serial : Nat
  document : Document
  deriving Repr, DecidableEq, Inhabited

structure CachedDocument where
  modified : Nat
  handle : Handle
  deriving Repr, DecidableEq, Inhabited

structure CacheStats where
  entries : Nat
  capacity : Nat
  hits : Nat
  parses : Nat
  deriving Repr, DecidableEq, Inhabited

/-- The documents that are kept, how often one was found, and how often one was parsed. -/
structure DocumentCache where
  recent : Recent CachedDocument
  hits : Nat := 0
  parses : Nat := 0
  deriving Repr

namespace DocumentCache

/-- How many documents are kept unless a number is given. -/
def defaultCapacity : Nat := 8

def ofCapacity (capacity : Nat) : DocumentCache :=
  { recent := .ofCapacity capacity }

/-- What comes of an operation, and the cache after it. -/
abbrev Answer (α : Type) := Except SnapshotError α × DocumentCache

/-- Reads and parses the file at a canonical path, and keeps the document. What has no time is a
directory, and cannot be read. -/
def parse (c : DocumentCache) (disk : Disk) (path : String) (modified : Option Nat) :
    Answer Handle :=
  match disk.read? path with
  | .error e => (.error (.file e), c)
  | .ok none => (.error (.notText path), c)
  | .ok (some text) =>
    let modified := modified.getD 0
    let handle : Handle := ⟨c.parses, Document.parse path modified text⟩
    (.ok handle,
      { c with recent := c.recent.put path ⟨modified, handle⟩, parses := c.parses + 1 })

/-- The document of the file at a canonical path that was last changed at the given time. -/
def loadAt (c : DocumentCache) (disk : Disk) (path : String) (modified : Option Nat) :
    Answer Handle :=
  let used := { c with recent := c.recent.touch path }
  match c.recent.get? path with
  | some entry =>
    if some entry.modified = modified then (.ok entry.handle, { used with hits := c.hits + 1 })
    else used.parse disk path modified
  | none => c.parse disk path modified

/-- The document of a file. -/
def load (c : DocumentCache) (disk : Disk) (path : String) : Answer Handle :=
  match disk.canonical? path with
  | .error e => (.error (.file e), c)
  | .ok path =>
    match disk.modified? path with
    | .error e => (.error (.file e), c)
    | .ok modified => c.loadAt disk path modified

/-- The path under which a document is kept: the canonical one if the file is there, else the path
as it is. -/
def key (disk : Disk) (path : String) : String :=
  match disk.canonical? path with
  | .ok path => path
  | .error _ => Location.normalForm path

/-- Whether the document of a file is kept. -/
def contains (c : DocumentCache) (disk : Disk) (path : String) : Bool :=
  c.recent.contains (key disk path)

/-- Forgets the document of a file; tells whether there was one. -/
def invalidate (c : DocumentCache) (disk : Disk) (path : String) : Bool × DocumentCache :=
  (c.contains disk path, { c with recent := c.recent.erase (key disk path) })

/-- Uses the document of a file for a question. -/
def ask {α : Type} (c : DocumentCache) (disk : Disk) (path : String)
    (question : Document → Except SnapshotError α) : Answer α :=
  let (handle, c) := c.load disk path
  (handle.bind fun h => question h.document, c)

/-- Searches the document of a file. -/
def search [Regexes] (c : DocumentCache) (disk : Disk) (path pattern : String)
    (options : SearchOptions) : Answer SearchPage :=
  c.ask disk path fun d => d.search pattern options

/-- Lines around one line of a file of the document. -/
def contextWindow (c : DocumentCache) (disk : Disk) (path file : String) (line before after : Nat) :
    Answer ContextWindow :=
  c.ask disk path fun d => d.contextWindow file line before after

def stats (c : DocumentCache) : CacheStats :=
  ⟨c.recent.size, c.recent.capacity, c.hits, c.parses⟩

end DocumentCache

end CodeSnapshot

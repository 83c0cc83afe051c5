import CodeSnapshot.Cache.Documents
import CodeSnapshot.Project.Basic

/-!
# A memory of projects

The project of a document is worked out once and kept under the path of the document. It is given
out again only for the very parse it was worked out from.
-/

namespace CodeSnapshot

/-- A project, and which one it is among those that were worked out. -/
structure ProjectHandle where
  serial : Nat
  project : Project
  deriving Repr, Inhabited

structure RememberedProject where
  /-- the parse the project was worked out from -/
  parse : Nat
  handle : ProjectHandle
  deriving Repr, Inhabited

structure ProjectMemo where
  recent : Recent RememberedProject
  built : Nat := 0
  deriving Repr

namespace ProjectMemo

def ofCapacity (capacity : Nat) : ProjectMemo :=
  { recent := .ofCapacity capacity }

/-- Works out the project of a document and keeps it. -/
def build (m : ProjectMemo) (h : Handle) : ProjectHandle × ProjectMemo :=
  let handle : ProjectHandle := ⟨m.built, Project.ofDocument h.document⟩
  (handle,
    { recent := m.recent.put h.document.path ⟨h.serial, handle⟩
      built := m.built + 1 })

/-- The project of a document. -/
def projectOf (m : ProjectMemo) (h : Handle) : ProjectHandle × ProjectMemo :=
  let used := { m with recent := m.recent.touch h.document.path }
  match m.recent.get? h.document.path with
  | some entry => if entry.parse = h.serial then (entry.handle, used) else used.build h
  | none => m.build h

end ProjectMemo

end CodeSnapshot

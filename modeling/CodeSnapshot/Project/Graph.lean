import CodeSnapshot.Sorted.Set

/-!
# Graphs of files

A graph gives each file a set of files. Files are told by how far they are from one another.
-/

namespace CodeSnapshot

/-- For each file the files it leads to. -/
abbrev Graph := StringMap StringSet

/-- A file that is reached, and in how many steps. -/
structure Reach where
  file : String
  distance : Nat
  deriving Repr, DecidableEq, Inhabited

namespace Graph

/-- The files that a file leads to. -/
def next (g : Graph) (file : String) : List String :=
  (g.linked file).toList

/-- The pairs of a file and one that it leads to. -/
def edges (g : Graph) : List (String × String) :=
  g.entries.flatMap fun (file, members) => members.toList.map (file, ·)

/-- Goes through files by distance, nearest first: `queue` are those whose neighbours are still to
be looked at, `seen` those that were reached. -/
def spread (g : Graph) (limit : Nat) : (fuel : Nat) → (queue : List Reach) →
    (seen : List String) → List Reach
  | 0, _, _ => []
  | _ + 1, [], _ => []
  | fuel + 1, current :: queue, seen =>
    if limit ≤ current.distance then spread g limit fuel queue seen
    else
      let found := (g.next current.file).filter (! seen.contains ·)
      let reached := found.map fun file => ⟨file, current.distance + 1⟩
      reached ++ spread g limit fuel (queue ++ reached) (found ++ seen)

/-- The files reached from a file within a number of steps, nearest first, each with its
distance. -/
def within (g : Graph) (file : String) (limit : Nat) : List Reach :=
  g.spread limit (g.edges.length + 2) [⟨file, 0⟩] [file]

end Graph

end CodeSnapshot

import CodeSnapshot.Project.Graph
import CodeSnapshot.Sorted.List

/-!
# Components

The strongly connected components of a graph are looked for in a graph of numbers: the files get
numbers in the order in which they are met, and the edges lead from number to number. Components with
more than one file are cycles, and so are files that lead to themselves.
-/

namespace CodeSnapshot

/-- A graph of numbers: the name of each number from zero on, and the edges, the latest first. -/
structure NumberedGraph where
  names : List String := []
  edges : List (Nat × Nat) := []
  deriving Repr, DecidableEq, Inhabited

namespace NumberedGraph

/-- The number of a name. A new name gets the next number. -/
def enter (n : NumberedGraph) (name : String) : Nat × NumberedGraph :=
  match n.names.idxOf? name with
  | some i => (i, n)
  | none => (n.names.length, { n with names := n.names ++ [name] })

/-- Adds an edge from a number to a name. -/
def link (n : NumberedGraph) (start : Nat) (name : String) : NumberedGraph :=
  let (stop, n) := n.enter name
  { n with edges := (start, stop) :: n.edges }

/-- Adds a file and the edges to the files that it leads to. -/
def add (n : NumberedGraph) (file : String) (targets : List String) : NumberedGraph :=
  let (start, n) := n.enter file
  targets.foldl (·.link start) n

/-- The graph of numbers for a graph of files. -/
def ofGraph (g : Graph) : NumberedGraph :=
  g.entries.foldl (fun n (file, targets) => n.add file targets.toList) {}

def size (n : NumberedGraph) : Nat :=
  n.names.length

def hasEdge (n : NumberedGraph) (start stop : Nat) : Bool :=
  n.edges.contains (start, stop)

/-- The numbers that a number leads to. -/
def next (n : NumberedGraph) (start : Nat) : List Nat :=
  (n.edges.filter (·.1 == start)).map (·.2)

/-- Follows edges from the numbers still to do; `seen` are those reached so far, and `fuel` bounds how
many are looked at. -/
def follow (n : NumberedGraph) : (fuel : Nat) → (todo seen : List Nat) → List Nat
  | 0, _, seen => seen
  | _ + 1, [], seen => seen
  | fuel + 1, i :: todo, seen =>
    if seen.contains i then follow n fuel todo seen
    else follow n fuel (n.next i ++ todo) (i :: seen)

/-- The numbers on ways from a number, its own included. -/
def reachable (n : NumberedGraph) (start : Nat) : List Nat :=
  n.follow (n.edges.length + 2) [start] []

/-- The numbers on ways from a number from which ways lead back to it. -/
def component (n : NumberedGraph) (start : Nat) : List Nat :=
  let reached := n.reachable start
  (List.range n.size).filter fun i => reached.contains i && (n.reachable i).contains start

/-- The strongly connected components, each listed by its least number. -/
def components (n : NumberedGraph) : List (List Nat) :=
  (List.range n.size).filterMap fun i =>
    let members := n.component i
    if members.head? = some i then some members else none

/-- Whether a component is a cycle: it has more than one number, or its number leads to itself. -/
def isCycle (n : NumberedGraph) (component : List Nat) : Bool :=
  1 < component.length || component.head?.any fun i => n.hasEdge i i

/-- The files of a component, in order. -/
def files (n : NumberedGraph) (component : List Nat) : List String :=
  sortedBy (fun a b => a ≤ b) (component.map fun i => n.names.getD i "")

end NumberedGraph

namespace Graph

/-- The cycles among some components of the graph, in order. -/
def cyclesAmong (g : Graph) (components : List (List Nat)) : List (List String) :=
  let n := NumberedGraph.ofGraph g
  sortedBy (fun a b => ¬ b < a) ((components.filter n.isCycle).map n.files)

/-- The files that import each other in a circle, and those that import themselves. -/
def cycles (g : Graph) : List (List String) :=
  g.cyclesAmong (NumberedGraph.ofGraph g).components

end Graph

end CodeSnapshot

import CodeSnapshot.Proofs.Sorted.LinkedSets
import CodeSnapshot.Project.Basic

/-!
# Mirrored graphs — who imports a file is read off what the files import

A project keeps its imports twice, by the file that imports and by the file that is imported. All
ways to come by a project keep the two in step, and so its tables are enough to come by it again.

* **`Mirrored`** — each graph is the other one turned round, and the second has no file without an
  importer. `mirrored_ofSources` carries it through the files that are read.
* **`foldl_entries`** — what going through a table does to a part of the project is told by the
  pairs of the table; `importGraph_ofMetadata` and `reverseGraph_ofMetadata` are the graphs that
  tables give, and `mirrored_ofMetadata` holds of tables that contradict each other, too.
* **`mem_files_ofMetadata`** — the files are the names of both tables of imports, and of no other.
* **`Mirrored.importGraph_rehydrated`**, **`Mirrored.reverseGraph_rehydrated`** — the tables of such
  a project give its graphs back.
* **`graphs_agree`** — the headline, for projects of sources, of documents and of tables.
-/

namespace CodeSnapshot

/-! ## Graphs as pairs -/

namespace Graph

variable {g : Graph} {file other : String}

theorem mem_edges_iff : (file, other) ∈ g.edges ↔ other ∈ g.linked file := by
  rw [edges, List.mem_flatMap]
  constructor
  · rintro ⟨⟨key, members⟩, hentry, hmem⟩
    obtain ⟨x, hx, heq⟩ := List.mem_map.1 hmem
    obtain ⟨rfl, rfl⟩ := Prod.mk.inj heq
    exact (StringMap.mem_linked_of_get? (StringMap.mem_entries_iff.1 hentry)).2 hx
  · intro h
    obtain ⟨members, hget, hmem⟩ := StringMap.exists_get?_of_mem_linked h
    exact ⟨(file, members), StringMap.mem_entries_iff.2 hget, List.mem_map_of_mem hmem⟩

/-- The pairs of the edges, each turned round. -/
def turned (g : Graph) : List (String × String) :=
  g.edges.map fun e => (e.2, e.1)

theorem mem_turned_iff : (other, file) ∈ g.turned ↔ other ∈ g.linked file := by
  rw [← mem_edges_iff, turned, List.mem_map]
  constructor
  · rintro ⟨e, he, heq⟩
    obtain ⟨rfl, rfl⟩ := Prod.mk.inj heq
    exact he
  · intro h
    exact ⟨(file, other), h, rfl⟩

end Graph

namespace Project

/-! ## Graphs in step -/

/-- The graphs say the same of every two files, and no file is listed without an importer. -/
structure Mirrored (p : Project) : Prop where
  transposed : ∀ file other,
    other ∈ p.reverseGraph.linked file ↔ file ∈ p.importGraph.linked other
  filled : p.reverseGraph.Filled

variable {p : Project}

theorem mirrored_empty (files : StringSet) : ({ files } : Project).Mirrored :=
  ⟨fun _ _ => iff_of_false StringSet.not_mem_empty StringSet.not_mem_empty,
    StringMap.filled_empty⟩

theorem Mirrored.addImport (h : p.Mirrored) (e : ImportEdge) : (p.addImport e).Mirrored := by
  rw [Project.addImport]
  split
  · exact ⟨h.transposed, h.filled⟩
  · rename_i target htarget
    refine ⟨fun file other => ?_, h.filled.link target e.source⟩
    rw [StringMap.mem_linked_link, StringMap.mem_linked_link, h.transposed, and_comm]

theorem Mirrored.addExport (h : p.Mirrored) (r : ExportRecord) : (p.addExport r).Mirrored :=
  ⟨h.transposed, h.filled⟩

theorem Mirrored.addSource (h : p.Mirrored) (source : String × String) :
    (p.addSource source).Mirrored := by
  rw [Project.addSource]
  refine List.foldlRecOn _ Project.addExport ?_ fun q hq r _ => hq.addExport r
  exact List.foldlRecOn _ Project.addImport h fun q hq e _ => hq.addImport e

theorem mirrored_ofSources (sources : List (String × String)) : (ofSources sources).Mirrored :=
  List.foldlRecOn _ Project.addSource (mirrored_empty _) fun _ hq source _ => hq.addSource source

/-! ## The graphs of tables -/

/-- **Going through a table.** If taking up a file leaves a part of the project alone, and each of
its members changes this part by `step`, then the part is changed by the pairs of the table. -/
theorem foldl_entries {α : Type} (part : Project → α) (step : α → String × String → α)
    (enter : Project → String → Project) (change : Project → String → String → Project)
    (henter : ∀ p file, part (enter p file) = part p)
    (hchange : ∀ p file x, part (change p file x) = step (part p) (file, x))
    (table : Graph) (p : Project) :
    part (table.entries.foldl
        (fun p e => e.2.toList.foldl (fun p x => change p e.1 x) (enter p e.1)) p) =
      table.edges.foldl step (part p) := by
  have hmembers (file : String) (members : List String) (p : Project) :
      part (members.foldl (fun p x => change p file x) p) =
        members.foldl (fun a x => step a (file, x)) (part p) := by
    induction members generalizing p with
    | nil => rfl
    | cons x members ih => rw [List.foldl_cons, ih, hchange, List.foldl_cons]
  rw [Graph.edges, List.foldl_flatMap]
  generalize table.entries = entries
  induction entries generalizing p with
  | nil => rfl
  | cons e entries ih =>
    rw [List.foldl_cons, ih, hmembers, henter, List.foldl_cons, List.foldl_map]

theorem foldl_entries_of_unchanged {α : Type} (part : Project → α)
    (enter : Project → String → Project) (change : Project → String → String → Project)
    (henter : ∀ p file, part (enter p file) = part p)
    (hchange : ∀ p file x, part (change p file x) = part p) (table : Graph) (p : Project) :
    part (table.entries.foldl
        (fun p e => e.2.toList.foldl (fun p x => change p e.1 x) (enter p e.1)) p) = part p := by
  rw [foldl_entries part (fun a _ => a) enter change henter hchange]
  exact List.foldlRecOn (motive := fun a => a = part p) _ _ rfl fun _ h _ _ => h

/-- The files are told by the names of the table. -/
theorem files_foldl_entries (enter : Project → String → Project)
    (change : Project → String → String → Project)
    (henter : ∀ p file, (enter p file).files = p.files.insert file)
    (hchange : ∀ p file x, (change p file x).files = p.files.insert x) (table : Graph)
    (p : Project) :
    (table.entries.foldl
        (fun p e => e.2.toList.foldl (fun p x => change p e.1 x) (enter p e.1)) p).files =
      p.files.insertAll table.names := by
  have hmembers (file : String) (members : List String) (p : Project) :
      (members.foldl (fun p x => change p file x) p).files = p.files.insertAll members := by
    induction members generalizing p with
    | nil => rfl
    | cons x members ih => rw [List.foldl_cons, ih, hchange]; rfl
  rw [StringSet.insertAll, StringMap.names, List.foldl_flatMap]
  generalize table.entries = entries
  induction entries generalizing p with
  | nil => rfl
  | cons e entries ih =>
    rw [List.foldl_cons, ih, hmembers, henter, List.foldl_cons]
    rfl

/-- Takes up a file of a table. -/
def enterFile (p : Project) (file : String) : Project :=
  { p with files := p.files.insert file }

/-- Takes up one that a file imports, but for the import itself. -/
def enterTarget (p : Project) (file target : String) : Project :=
  { p with
    files := p.files.insert target
    reverseGraph := p.reverseGraph.link target file }

/-- Takes up one that imports a file. -/
def enterImporter (p : Project) (file importer : String) : Project :=
  { p with
    files := p.files.insert importer
    reverseGraph := p.reverseGraph.link file importer
    importGraph := p.importGraph.link importer file }

/-- Takes up a table of who imports what. -/
def enterImports (p : Project) (table : Graph) : Project :=
  table.entries.foldl
    (fun p e => e.2.toList.foldl (fun p x => p.enterTarget e.1 x) (p.enterFile e.1)) p

/-- Takes up a table of who is imported by whom. -/
def enterImporters (p : Project) (table : Graph) : Project :=
  table.entries.foldl
    (fun p e => e.2.toList.foldl (fun p x => p.enterImporter e.1 x) (p.enterFile e.1)) p

theorem ofMetadata_eq (m : Metadata) :
    ofMetadata m =
      (({ importGraph := m.importGraph, symbolIndex := m.exportIndex } : Project).enterImports
        m.importGraph).enterImporters m.whoImports :=
  rfl

theorem foldl_turned (g table : Graph) :
    table.edges.foldl (fun g e => g.link e.2 e.1) g = g.linkPairs table.turned := by
  rw [StringMap.linkPairs, Graph.turned, List.foldl_map]

section Tables

variable (p) (table : Graph)

@[simp] theorem files_enterImports :
    (p.enterImports table).files = p.files.insertAll table.names :=
  files_foldl_entries enterFile enterTarget (fun _ _ => rfl) (fun _ _ _ => rfl) table p

@[simp] theorem files_enterImporters :
    (p.enterImporters table).files = p.files.insertAll table.names :=
  files_foldl_entries enterFile enterImporter (fun _ _ => rfl) (fun _ _ _ => rfl) table p

@[simp] theorem importGraph_enterImports : (p.enterImports table).importGraph = p.importGraph :=
  foldl_entries_of_unchanged (·.importGraph) enterFile enterTarget (fun _ _ => rfl)
    (fun _ _ _ => rfl) table p

@[simp] theorem reverseGraph_enterImports :
    (p.enterImports table).reverseGraph = p.reverseGraph.linkPairs table.turned := by
  rw [← foldl_turned]
  exact foldl_entries (·.reverseGraph) (fun g e => g.link e.2 e.1) enterFile enterTarget
    (fun _ _ => rfl) (fun _ _ _ => rfl) table p

@[simp] theorem symbolIndex_enterImports : (p.enterImports table).symbolIndex = p.symbolIndex :=
  foldl_entries_of_unchanged (·.symbolIndex) enterFile enterTarget (fun _ _ => rfl)
    (fun _ _ _ => rfl) table p

@[simp] theorem importGraph_enterImporters :
    (p.enterImporters table).importGraph = p.importGraph.linkPairs table.turned := by
  rw [← foldl_turned]
  exact foldl_entries (·.importGraph) (fun g e => g.link e.2 e.1) enterFile enterImporter
    (fun _ _ => rfl) (fun _ _ _ => rfl) table p

@[simp] theorem reverseGraph_enterImporters :
    (p.enterImporters table).reverseGraph = p.reverseGraph.linkPairs table.edges :=
  foldl_entries (·.reverseGraph) (fun g e => g.link e.1 e.2) enterFile enterImporter
    (fun _ _ => rfl) (fun _ _ _ => rfl) table p

@[simp] theorem symbolIndex_enterImporters :
    (p.enterImporters table).symbolIndex = p.symbolIndex :=
  foldl_entries_of_unchanged (·.symbolIndex) enterFile enterImporter (fun _ _ => rfl)
    (fun _ _ _ => rfl) table p

end Tables

section Metadata

variable (m : Metadata)

/-- The files are the names of both tables of imports. -/
theorem mem_files_ofMetadata {m : Metadata} {file : String} :
    file ∈ (ofMetadata m).files ↔ file ∈ m.importGraph.names ∨ file ∈ m.whoImports.names := by
  simp only [ofMetadata_eq, files_enterImporters, files_enterImports, StringSet.mem_insertAll]
  rw [or_comm, or_iff_left StringSet.not_mem_empty]

theorem importGraph_ofMetadata :
    (ofMetadata m).importGraph = m.importGraph.linkPairs (Graph.turned m.whoImports) := by
  simp [ofMetadata_eq]

theorem reverseGraph_ofMetadata :
    (ofMetadata m).reverseGraph =
      (StringMap.empty.linkPairs (Graph.turned m.importGraph)).linkPairs
        (Graph.edges m.whoImports) := by
  simp [ofMetadata_eq]

theorem symbolIndex_ofMetadata : (ofMetadata m).symbolIndex = m.exportIndex := by
  simp [ofMetadata_eq]

/-- Both tables are entered on both sides, so that tables that contradict each other do no harm. -/
theorem mirrored_ofMetadata : (ofMetadata m).Mirrored := by
  refine ⟨fun file other => ?_, ?_⟩
  · rw [reverseGraph_ofMetadata, importGraph_ofMetadata, StringMap.mem_linked_linkPairs,
      StringMap.mem_linked_linkPairs, StringMap.mem_linked_linkPairs, Graph.mem_turned_iff,
      Graph.mem_turned_iff, Graph.mem_edges_iff]
    -- nothing is in the map that both tables are entered into
    exact or_congr_right (or_iff_left StringSet.not_mem_empty)
  · rw [reverseGraph_ofMetadata]
    exact (StringMap.filled_empty.linkPairs _).linkPairs _

theorem mirrored_ofDocument (d : Document) : (ofDocument d).Mirrored := by
  rw [ofDocument]
  split
  · exact mirrored_ofMetadata _
  · exact mirrored_ofSources _

end Metadata

/-! ## Back from the tables -/

section Rehydrated

variable (h : p.Mirrored)
include h

theorem Mirrored.importGraph_rehydrated :
    (ofMetadata p.toMetadata).importGraph = p.importGraph := by
  rw [importGraph_ofMetadata]
  refine StringMap.linkPairs_of_mem fun (file, target) hmem => ?_
  exact (h.transposed target file).1 (Graph.mem_turned_iff.1 hmem)

theorem Mirrored.reverseGraph_rehydrated :
    (ofMetadata p.toMetadata).reverseGraph = p.reverseGraph := by
  -- the graph is built up from nothing, so that only its pairs and its keys are there to compare
  refine StringMap.Filled.ext (mirrored_ofMetadata _).filled h.filled fun file other => ?_
  rw [(mirrored_ofMetadata _).transposed, h.importGraph_rehydrated, h.transposed]

end Rehydrated

/-- What the graphs of a project say stays the same under the way to its tables and back. -/
structure GraphsAgree (p : Project) : Prop where
  transposed : ∀ file other,
    other ∈ p.reverseGraph.linked file ↔ file ∈ p.importGraph.linked other
  importGraph : (ofMetadata p.toMetadata).importGraph = p.importGraph
  reverseGraph : (ofMetadata p.toMetadata).reverseGraph = p.reverseGraph
  symbolIndex : (ofMetadata p.toMetadata).symbolIndex = p.symbolIndex
  cycles : (ofMetadata p.toMetadata).cycles = p.cycles
  impact : ∀ file maxDepth,
    (ofMetadata p.toMetadata).impact file maxDepth = p.impact file maxDepth

theorem Mirrored.graphsAgree (h : p.Mirrored) : p.GraphsAgree where
  transposed := h.transposed
  importGraph := h.importGraph_rehydrated
  reverseGraph := h.reverseGraph_rehydrated
  symbolIndex := symbolIndex_ofMetadata _
  cycles := congrArg Graph.cycles h.importGraph_rehydrated
  impact file maxDepth :=
    congrArg (Graph.within · (Path.normalize file) maxDepth) h.reverseGraph_rehydrated

/-- **The graphs agree**, however the project was come by: a file is listed as an importer of
another one exactly if it is listed as importing it, and the tables of the project give its graphs
back. -/
theorem graphs_agree :
    (∀ sources, (ofSources sources).GraphsAgree) ∧ (∀ d, (ofDocument d).GraphsAgree) ∧
      ∀ m, (ofMetadata m).GraphsAgree :=
  ⟨fun sources => (mirrored_ofSources sources).graphsAgree,
    fun d => (mirrored_ofDocument d).graphsAgree, fun m => (mirrored_ofMetadata m).graphsAgree⟩

end Project

end CodeSnapshot

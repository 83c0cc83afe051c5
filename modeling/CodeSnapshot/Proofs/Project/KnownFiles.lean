import CodeSnapshot.Proofs.Project.ListedNames

/-!
# Known files — what a project names is a file of it

A project has a set of files, and it names files in its graphs and as exporters of symbols. Whether
these are files of the project depends on how it was made.

* **`GraphNames`**, **`Names`** — a condition on the names in the graphs, and on the exporters, too.
* **`names_ofSources`** — a project that is read from sources names its own files only: an import is
  resolved to a known file or not at all.
* **`graphNames_ofMetadata`** — tables of imports are taken up together with the files in them. The
  table of exports is not, and `names_ofMetadata_iff` says what it must be like.
* **`GraphNames.answers`** — what is asked of the graphs is answered with their names.
* **`names_known`** — the headline, for projects of sources, of tables and of documents.
-/

namespace CodeSnapshot

/-! ## Files at a distance -/

namespace Graph

variable {g : Graph}

/-- What is reached is a neighbour of something. -/
theorem exists_linked_of_mem_spread {limit fuel : Nat} {queue : List Reach} {seen : List String}
    {r : Reach} (h : r ∈ g.spread limit fuel queue seen) : ∃ file, r.file ∈ g.linked file := by
  -- along the search, one file of the queue at a time
  induction fuel generalizing queue seen with
  | zero => cases h
  | succ fuel ih =>
    cases queue with
    | nil => cases h
    | cons current queue =>
      rw [spread] at h
      split at h
      · exact ih h
      · rcases List.mem_append.1 h with hfound | hlater
        · obtain ⟨other, hother, rfl⟩ := List.mem_map.1 hfound
          exact ⟨current.file, (List.mem_filter.1 hother).1⟩
        · exact ih hlater

end Graph

/-! ## Sources -/

theorem SourceFile.known_of_resolve? {known : String → Bool} {file specifier target : String}
    (h : resolve? known file specifier = some target) : known target = true := by
  rw [resolve?] at h
  split at h
  · obtain ⟨base, -, hfind⟩ := Option.bind_eq_some_iff.1 h
    exact List.find?_some hfind
  · cases h

theorem ImportEdge.source_of_mem_ofSource {file content : String} {e : ImportEdge}
    (h : e ∈ ofSource file content) : e.source = file := by
  obtain ⟨f, -, rfl⟩ := List.mem_map.1 h
  rfl

theorem ExportRecord.file_of_mem_ofSource {file content : String} {r : ExportRecord}
    (h : r ∈ ofSource file content) : r.file = file := by
  obtain ⟨f, -, rfl⟩ := List.mem_map.1 h
  rfl

namespace Project

/-- A condition on the names in the graphs. -/
structure GraphNames (P : String → Prop) (p : Project) : Prop where
  importGraph : p.importGraph.AllNames P
  reverseGraph : p.reverseGraph.AllNames P

/-- A condition on all files that a project names. -/
structure Names (P : String → Prop) (p : Project) : Prop extends GraphNames P p where
  exporter : ∀ symbol, ∀ file ∈ p.symbolIndex.linked symbol, P file

section

variable {P : String → Prop} {p : Project}

theorem Names.imp {Q : String → Prop} (h : p.Names P) (hpq : ∀ file, P file → Q file) :
    p.Names Q :=
  ⟨⟨h.importGraph.imp hpq, h.reverseGraph.imp hpq⟩, fun symbol file hmem =>
    hpq file (h.exporter symbol file hmem)⟩

theorem Names.addImport (h : p.Names P) {e : ImportEdge} (hsource : P e.source)
    (hresolved : ∀ target, e.resolved = some target → P target) : (p.addImport e).Names P := by
  rw [Project.addImport]
  split
  · exact ⟨⟨h.importGraph, h.reverseGraph⟩, h.exporter⟩
  · rename_i target htarget
    have hknown := hresolved target htarget
    exact ⟨⟨h.importGraph.link hsource hknown, h.reverseGraph.link hknown hsource⟩, h.exporter⟩

theorem Names.addExport (h : p.Names P) {r : ExportRecord} (hfile : P r.file) :
    (p.addExport r).Names P := by
  refine ⟨⟨h.importGraph, h.reverseGraph⟩, fun symbol file hmem => ?_⟩
  rcases StringMap.mem_linked_link.1 hmem with ⟨-, rfl⟩ | hold
  · exact hfile
  · exact h.exporter symbol file hold

/-- **One source.** What it adds is its own path, and files that were known before. -/
theorem Names.addSource (h : p.Names P) (hfiles : ∀ file ∈ p.files, P file)
    {source : String × String} (hsource : P source.1) : (p.addSource source).Names P := by
  rw [Project.addSource]
  refine List.foldlRecOn _ Project.addExport ?_ fun q hq r hr => hq.addExport ?_
  · refine List.foldlRecOn _ Project.addImport h fun q hq e he => ?_
    obtain ⟨raw, hraw, rfl⟩ := List.mem_map.1 he
    have hpath : raw.source = source.1 := ImportEdge.source_of_mem_ofSource hraw
    refine hq.addImport (hpath ▸ hsource) fun target htarget => hfiles target ?_
    exact StringSet.contains_iff.1 (SourceFile.known_of_resolve? htarget)
  · rw [ExportRecord.file_of_mem_ofSource hr]
    exact hsource

end

theorem names_ofSources (sources : List (String × String)) :
    (ofSources sources).Names (· ∈ (ofSources sources).files) := by
  rw [files_ofSources]
  generalize hfiles : StringSet.ofList ((supported sources).map (·.1)) = files
  have hmem : ∀ source ∈ supported sources, source.1 ∈ files := by
    intro source hsource
    rw [← hfiles, StringSet.mem_ofList]
    exact List.mem_map_of_mem hsource
  have hempty : Names (· ∈ files) { files } :=
    ⟨⟨StringMap.allNames_empty, StringMap.allNames_empty⟩, fun _ _ h =>
      absurd h StringSet.not_mem_empty⟩
  -- the files are all there before the first source is read
  have hrun : (ofSources sources).Names (· ∈ files) ∧ (ofSources sources).files = files := by
    rw [ofSources, hfiles]
    refine List.foldlRecOn (motive := fun q : Project => q.Names (· ∈ files) ∧ q.files = files)
      (supported sources) Project.addSource ⟨hempty, rfl⟩ ?_
    rintro q ⟨hq, hqfiles⟩ source hsource
    refine ⟨hq.addSource ?_ (hmem source hsource), (files_addSource q source).trans hqfiles⟩
    rw [hqfiles]
    exact fun _ h => h
  exact hrun.1

/-! ## Tables -/

section

variable (m : Metadata)

theorem graphNames_ofMetadata : (ofMetadata m).GraphNames (· ∈ (ofMetadata m).files) := by
  have himports : m.importGraph.AllNames (· ∈ (ofMetadata m).files) :=
    StringMap.allNames_iff.2 fun file hfile => mem_files_ofMetadata.2 (.inl hfile)
  have hwho : m.whoImports.AllNames (· ∈ (ofMetadata m).files) :=
    StringMap.allNames_iff.2 fun file hfile => mem_files_ofMetadata.2 (.inr hfile)
  have hedge {g : Graph} (hg : g.AllNames (· ∈ (ofMetadata m).files)) :
      ∀ e ∈ g.edges, e.1 ∈ (ofMetadata m).files ∧ e.2 ∈ (ofMetadata m).files := by
    rintro ⟨file, other⟩ he
    obtain ⟨members, hget, hmem⟩ := StringMap.exists_get?_of_mem_linked (Graph.mem_edges_iff.1 he)
    exact ⟨hg.key _ _ hget, hg.member _ _ hget _ hmem⟩
  constructor
  · rw [importGraph_ofMetadata]
    refine himports.linkPairs fun e he => ?_
    exact (hedge hwho (e.2, e.1) (Graph.mem_edges_iff.2 (Graph.mem_turned_iff.1 he))).symm
  · rw [reverseGraph_ofMetadata]
    refine (StringMap.allNames_empty.linkPairs fun e he => ?_).linkPairs (hedge hwho)
    exact (hedge himports (e.2, e.1) (Graph.mem_edges_iff.2 (Graph.mem_turned_iff.1 he))).symm

/-- Every exporter in the tables is in one of the tables of imports, too. -/
def CoversExporters (m : Metadata) : Prop :=
  ∀ symbol, ∀ file ∈ m.exportIndex.linked symbol,
    file ∈ m.importGraph.names ∨ file ∈ m.whoImports.names

theorem names_ofMetadata_iff :
    (ofMetadata m).Names (· ∈ (ofMetadata m).files) ↔ CoversExporters m := by
  constructor
  · intro h symbol file hfile
    rw [← symbolIndex_ofMetadata m] at hfile
    exact mem_files_ofMetadata.1 (h.exporter symbol file hfile)
  · refine fun h => ⟨graphNames_ofMetadata m, fun symbol file hfile => ?_⟩
    rw [symbolIndex_ofMetadata] at hfile
    exact mem_files_ofMetadata.2 (h symbol file hfile)

end

/-! ## Answers -/

/-- A condition on the files that the graphs are asked for. -/
structure Answers (P : String → Prop) (p : Project) : Prop where
  imports : ∀ file, ∀ other ∈ p.importsOf file, P other
  importers : ∀ file, ∀ other ∈ p.importersOf file, P other
  impact : ∀ file maxDepth, ∀ r ∈ p.impact file maxDepth, P r.file

section

variable {P : String → Prop} {p : Project}

theorem GraphNames.answers (h : p.GraphNames P) : p.Answers P where
  imports _ _ hmem := h.importGraph.linked hmem
  importers _ _ hmem := h.reverseGraph.linked hmem
  impact _ _ _ hr := by
    obtain ⟨_, hmem⟩ := Graph.exists_linked_of_mem_spread hr
    exact h.reverseGraph.linked hmem

theorem Names.exportersOf (h : p.Names P) (symbol : String) :
    ∀ file ∈ p.exportersOf symbol, P file :=
  h.exporter (Text.trimmed symbol)

end

/-- What the graphs of a project name, and what is answered from them, are files of the project. -/
structure GraphsKnown (p : Project) : Prop where
  names : p.GraphNames (· ∈ p.files)
  answers : p.Answers (· ∈ p.files)

/-- All that a project names, and all that it answers, are files of the project. -/
structure Known (p : Project) : Prop extends GraphsKnown p where
  exporter : ∀ symbol, ∀ file ∈ p.symbolIndex.linked symbol, file ∈ p.files
  exporters : ∀ symbol, ∀ file ∈ p.exportersOf symbol, file ∈ p.files

theorem known_iff {p : Project} : p.Known ↔ p.Names (· ∈ p.files) :=
  ⟨fun h => ⟨h.names, h.exporter⟩,
    fun h => ⟨⟨h.toGraphNames, h.answers⟩, h.exporter, h.exportersOf⟩⟩

/-- **Known files.** A project of sources names none but its own files. A project of tables does so
in its graphs, and everywhere exactly if each exporter imports something or is imported; and the
same is true of a document, which has tables to go by only if there are no sources in it. -/
theorem names_known (sources : List (String × String)) (m : Metadata) (d : Document) :
    (ofSources sources).Known ∧
      ((ofMetadata m).GraphsKnown ∧ ((ofMetadata m).Known ↔ CoversExporters m)) ∧
      (ofDocument d).GraphsKnown ∧
        ((ofDocument d).Known ↔ (sourcesOf d = [] → CoversExporters d.metadata)) := by
  have hsources (sources : List (String × String)) : (ofSources sources).Known :=
    known_iff.2 (names_ofSources sources)
  have htables (m : Metadata) :
      (ofMetadata m).GraphsKnown ∧ ((ofMetadata m).Known ↔ CoversExporters m) :=
    ⟨⟨graphNames_ofMetadata m, (graphNames_ofMetadata m).answers⟩,
      known_iff.trans (names_ofMetadata_iff m)⟩
  refine ⟨hsources sources, htables m, ?_⟩
  rw [ofDocument]
  split
  · -- there are tables and no sources
    rename_i hcondition
    have hempty : sourcesOf d = [] := List.isEmpty_iff.1 (Bool.and_eq_true_iff.1 hcondition).1
    obtain ⟨hgraphs, hknown⟩ := htables d.metadata
    exact ⟨hgraphs, hknown.trans ⟨fun h _ => h, fun h => h hempty⟩⟩
  · rename_i hcondition
    have hknown := hsources (sourcesOf d)
    refine ⟨hknown.toGraphsKnown, iff_of_true hknown fun hempty => ?_⟩
    -- there are no tables either, and so there are no exporters in them
    have hmetadata : d.metadata.isEmpty = true := by simpa [hempty] using hcondition
    have hindex : d.metadata.exportIndex = .empty := Metadata.get_of_isEmpty hmetadata .exportIndex
    rw [CoversExporters, hindex]
    exact fun symbol file hfile => absurd hfile StringSet.not_mem_empty

/-- A snapshot with nothing but a table of exports: the exporter is not a file of the project. -/
theorem not_known_of_export_index :
    let p := ofDocument (Document.parse "snapshot.txt" 0
      ("====================\nMETADATA: EXPORT_INDEX\n====================\n" ++
        "run: b.ts\n"))
    p.exportersOf "run" = ["b.ts"] ∧ p.files = .empty ∧ p.isAnalyzed "b.ts" = false ∧
      p.tryImportsOf "b.ts" = .error (.notAnalyzed "b.ts") ∧ ¬ p.Known := by
  intro p
  have hfiles : p.files = .empty := by decide +kernel
  have hexporters : p.exportersOf "run" = ["b.ts"] := by decide +kernel
  have hanalyzed : p.isAnalyzed "b.ts" = false := by
    rw [isAnalyzed, hfiles]
    rfl
  refine ⟨hexporters, hfiles, hanalyzed, ?_, fun h => ?_⟩
  · have hname : Path.normalize "b.ts" = "b.ts" := by decide
    have hsupported : SourceFile.isSupported "b.ts" = true := by decide
    simp [tryImportsOf, hname, hsupported, hanalyzed]
  · have hknown := h.exporters "run" "b.ts" (by rw [hexporters]; decide)
    rw [hfiles] at hknown
    exact StringSet.not_mem_empty hknown

end Project

end CodeSnapshot

import CodeSnapshot.Proofs.Document.TableRoundTrip
import CodeSnapshot.Proofs.Project.ExportedSymbols
import CodeSnapshot.Proofs.Project.WrittenSources

/-!
# Rendered tables — a project that is read from its own tables

The tables of a project are written as a snapshot, and a project is read from that snapshot. It gives
the answers of the first one, as long as the names of the files keep their place in a line. The
symbols always do, for they are names.

* **`Tellable`** — the names in a project can be written.
* **`isName_of_get?_symbolIndex`** — the symbols of sources are names.
* **`Tellable.writable`** — so the tables of a project of sources can be written, if its files can.
* **`SameAnswers`** — two projects cannot be told apart by asking; `sameAnswers_of_graphs` says what
  the answers depend on.
* **`sameAnswers_rendered`** — the headline.
-/

namespace CodeSnapshot

open Metadata (WritableName WritableSymbol)

namespace Project

/-! ## Tables that can be written -/

/-- The files that a project names keep their place in a table, and none of those that a table is
sorted by has the mark of the table in its name. -/
structure Tellable (p : Project) : Prop where
  names : p.Names WritableName
  unmarked : ∀ table ≠ Table.exportIndex, ∀ e ∈ (p.toMetadata.get table).entries,
    ¬ table.mark <:+: e.1.toList

/-- **The symbols of sources are names.** -/
theorem isName_of_get?_symbolIndex {sources : List (String × String)} {symbol : String}
    {members : StringSet} (h : (ofSources sources).symbolIndex.get? symbol = some members) :
    IsName symbol := by
  rw [symbolIndex_ofSources] at h
  -- a key was there before, or it came with one of the exports of a source
  have hrun (ss : List (String × String)) (m : StringMap StringSet)
      (hm : (m.get? symbol).isSome → IsName symbol)
      (hget : ((ss.foldl (fun m source => m.linkPairs (exportPairs source)) m).get?
        symbol).isSome) : IsName symbol := by
    induction ss generalizing m with
    | nil => exact hm hget
    | cons source ss ih =>
      refine ih _ (fun hsome => ?_) hget
      rcases StringMap.isSome_get?_linkPairs hsome with hold | ⟨file, hpair⟩
      · exact hm hold
      · obtain ⟨r, hr, heq⟩ := List.mem_map.1 hpair
        obtain ⟨rfl, -⟩ := Prod.mk.inj heq
        exact ExportRecord.isName_of_mem_ofSource hr
  exact hrun _ .empty nofun (by rw [h]; rfl)

theorem Tellable.writable {sources : List (String × String)} (h : (ofSources sources).Tellable) :
    (ofSources sources).toMetadata.Writable where
  key table e he := by
    have hget := StringMap.mem_entries_iff.1 he
    cases table with
    | exportIndex => exact (isName_of_get?_symbolIndex hget).writable
    | importGraph => exact ⟨h.names.importGraph.key _ _ hget, h.unmarked _ (by decide) e he⟩
    | whoImports => exact ⟨h.names.reverseGraph.key _ _ hget, h.unmarked _ (by decide) e he⟩
  member table e he name hname := by
    have hget := StringMap.mem_entries_iff.1 he
    cases table with
    | exportIndex =>
      exact h.names.exporter e.1 name ((StringMap.mem_linked_of_get? hget).2 hname)
    | importGraph => exact h.names.importGraph.member _ _ hget name hname
    | whoImports => exact h.names.reverseGraph.member _ _ hget name hname

/-! ## Answers -/

/-- What two projects are asked for is answered in the same way. -/
structure SameAnswers (p q : Project) : Prop where
  imports : ∀ file, p.importsOf file = q.importsOf file
  importers : ∀ file, p.importersOf file = q.importersOf file
  exporters : ∀ symbol, p.exportersOf symbol = q.exportersOf symbol
  impact : ∀ file maxDepth, p.impact file maxDepth = q.impact file maxDepth
  cycles : p.cycles = q.cycles

theorem sameAnswers_of_graphs {p q : Project} (himports : p.importGraph = q.importGraph)
    (himporters : p.reverseGraph = q.reverseGraph) (hsymbols : p.symbolIndex = q.symbolIndex) :
    p.SameAnswers q where
  imports file := by rw [importsOf, importsOf, himports]
  importers file := by rw [importersOf, importersOf, himporters]
  exporters symbol := by rw [exportersOf, exportersOf, hsymbols]
  impact file maxDepth := by rw [impact, impact, himporters]
  cycles := by rw [cycles, cycles, himports]

/-- There are no sources between tables. -/
theorem sourcesOf_render {m : Metadata} (h : m.Lined) (path : String) (modified : Nat) :
    sourcesOf (Document.parse path modified m.render) = [] := by
  rw [sourcesOf_eq, Metadata.files_render h]
  rfl

/-- **A project of sources answers from its tables** as it does from the sources. -/
theorem sameAnswers_rendered (path : String) (modified : Nat) (sources : List (String × String))
    (h : (ofSources sources).Tellable) :
    SameAnswers
      (ofDocument (Document.parse path modified (ofSources sources).toMetadata.render))
      (ofSources sources) := by
  have hwritable := h.writable
  rw [ofDocument, sourcesOf_render hwritable.lined, Metadata.metadata_render hwritable]
  cases hempty : (ofSources sources).toMetadata.isEmpty with
  | false =>
    have hmirrored := mirrored_ofSources sources
    exact sameAnswers_of_graphs hmirrored.importGraph_rehydrated
      hmirrored.reverseGraph_rehydrated (symbolIndex_ofMetadata _)
  | true =>
    -- nothing was written, and the project of nothing is read
    have htable := Metadata.get_of_isEmpty hempty
    exact sameAnswers_of_graphs (htable .importGraph).symm (htable .whoImports).symm
      (htable .exportIndex).symm

/-- Names with the marks of tables in them, where these are not the marks of their own tables, with
colons, and with equals signs. -/
theorem sameAnswers_rendered_at_marks :
    let sources := [("a <- b.ts", "import './x -> y';\nexport const run = 1;"),
      ("x -> y.ts", "export class $a {}"), ("FILE: =.ts", "import './x -> y'")]
    (ofSources sources).Tellable ∧
      SameAnswers
        (ofDocument (Document.parse "snapshot.txt" 0 (ofSources sources).toMetadata.render))
        (ofSources sources) := by
  intro sources
  have hfiles : ∀ file ∈ (ofSources sources).files, WritableName file := by
    rw [files_ofSources]
    decide +kernel
  have hmarks : ∀ table ∈ Table.all, table ≠ .exportIndex →
      ∀ e ∈ ((ofSources sources).toMetadata.get table).entries, ¬ table.mark <:+: e.1.toList := by
    decide +kernel
  have h : (ofSources sources).Tellable :=
    ⟨(names_ofSources sources).imp hfiles, fun table => hmarks table (Table.mem_all table)⟩
  exact ⟨h, sameAnswers_rendered "snapshot.txt" 0 sources h⟩

/-- A file with a comma in its name: in the table of importers it stands for two others. -/
theorem not_sameAnswers_of_comma :
    let p := ofSources [("a,b.ts", "import './c';"), ("c.ts", "")]
    let q := ofDocument (Document.parse "snapshot.txt" 0 p.toMetadata.render)
    p.importersOf "c.ts" = ["a,b.ts"] ∧ q.importersOf "c.ts" = ["a", "a,b.ts", "b.ts"] ∧
      p.impact "c.ts" 1 = [⟨"a,b.ts", 1⟩] ∧
      q.impact "c.ts" 1 = [⟨"a", 1⟩, ⟨"a,b.ts", 1⟩, ⟨"b.ts", 1⟩] ∧ ¬ SameAnswers q p := by
  intro p q
  have hlines : ∀ table ∈ Table.all, ∀ e ∈ (p.toMetadata.get table).entries,
      '\n' ∉ (Metadata.entryLine table e).toList ∧
        (Metadata.entryLine table e).toList.getLast? ≠ some '\r' := by decide +kernel
  have hlined : p.toMetadata.Lined := by
    intro table e he
    obtain ⟨hline, hreturn⟩ := hlines table (Table.mem_all table) e he
    exact Lines.texts_line hline hreturn
  -- the member of the second table is cut in two; as a key of the first one it stays whole
  have htables : p.toMetadata.filled.map (fun t =>
      (t.name, (p.toMetadata.get t).entries.map (Metadata.entryLine t))) =
        [("IMPORT_GRAPH", ["a,b.ts -> c.ts"]), ("WHO_IMPORTS", ["c.ts <- a,b.ts"])] := by
    decide +kernel
  have hq : q = ofMetadata (Metadata.ofSections
      [("IMPORT_GRAPH", ["a,b.ts -> c.ts"]), ("WHO_IMPORTS", ["c.ts <- a,b.ts"])]) := by
    show ofDocument _ = _
    rw [ofDocument, sourcesOf_render hlined, Metadata.metadata_render_of_lined hlined, htables]
    rfl
  have hp : p.importersOf "c.ts" = ["a,b.ts"] := by decide +kernel
  have himporters : q.importersOf "c.ts" = ["a", "a,b.ts", "b.ts"] := by
    rw [hq]
    decide +kernel
  have himpact : q.impact "c.ts" 1 = [⟨"a", 1⟩, ⟨"a,b.ts", 1⟩, ⟨"b.ts", 1⟩] := by
    rw [hq]
    decide +kernel
  refine ⟨hp, himporters, by decide +kernel, himpact, fun hsame => ?_⟩
  have heq := hsame.importers "c.ts"
  rw [hp, himporters] at heq
  exact absurd heq (by decide)

end Project

end CodeSnapshot

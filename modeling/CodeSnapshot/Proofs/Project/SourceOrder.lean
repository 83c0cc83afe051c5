import CodeSnapshot.Proofs.Project.RenderedTables

/-!
# Source order — a project is that of its sources in any order

The sources of a project are read one after the other, each adds to the graphs and to the symbols,
and its imports are resolved among all the files. What comes of it is told by what is in the single
sources, and that is the same whichever of them is read first.

* **`importGraph_ofSources`** — what each source adds to the imports, and what they add up to.
* **`known_ofSources_iff`**, **`leads_ofSources_iff`**, **`exports_ofSources_iff`** — the files, the
  imports and the symbols of a project, each told by the sources it is made from.
* **`sameFacts_of_mem_iff`** — so the same sources make the same project.
* **`same_reordered`** — the headline: neither the order of the sources counts, nor do files among
  them that are not read.
-/

namespace CodeSnapshot

theorem StringMap.foldl_linkPairs {α : Type} (f : α → List (String × String)) (xs : List α)
    (m : StringMap StringSet) :
    xs.foldl (fun m x => m.linkPairs (f x)) m = m.linkPairs (xs.flatMap f) := by
  rw [linkPairs, List.foldl_flatMap]
  rfl

namespace Project

/-! ## What a source adds -/

/-- The imports of a source that are resolved to a known file, each with the file it stands in. -/
def importPairs (known : StringSet) (source : String × String) : List (String × String) :=
  (ImportEdge.ofSource source.1 source.2).filterMap fun e =>
    (SourceFile.resolve? known.contains source.1 e.specifier).map (e.source, ·)

theorem importGraph_addSource (p : Project) (source : String × String) :
    (p.addSource source).importGraph = p.importGraph.linkPairs (importPairs p.files source) := by
  -- exports leave the graph alone, and imports go into it one by one
  have hexports (records : List ExportRecord) (q : Project) :
      (records.foldl addExport q).importGraph = q.importGraph :=
    List.foldlRecOn (motive := fun r : Project => r.importGraph = q.importGraph) records addExport
      rfl fun _ hr _ _ => hr
  have himports (edges : List ImportEdge) (q : Project) :
      (edges.foldl addImport q).importGraph =
        q.importGraph.linkPairs (edges.filterMap fun e => e.resolved.map (e.source, ·)) := by
    induction edges generalizing q with
    | nil => rfl
    | cons e edges ih =>
      rw [List.foldl_cons, ih, List.filterMap_cons, addImport]
      cases e.resolved with
      | none => rfl
      | some target => rfl
  rw [addSource, hexports, himports, List.filterMap_map]
  rfl

variable {sources others listed : List (String × String)}

/-- **The imports** of a project of sources. All files are known before the first source is read. -/
theorem importGraph_ofSources (sources : List (String × String)) :
    (ofSources sources).importGraph =
      StringMap.empty.linkPairs
        ((supported sources).flatMap (importPairs (ofSources sources).files)) := by
  have hrun (ss : List (String × String)) (p : Project) :
      (ss.foldl addSource p).importGraph =
        p.importGraph.linkPairs (ss.flatMap (importPairs p.files)) := by
    rw [← StringMap.foldl_linkPairs]
    induction ss generalizing p with
    | nil => rfl
    | cons source ss ih =>
      rw [List.foldl_cons, ih, files_addSource, importGraph_addSource, List.foldl_cons]
  rw [files_ofSources]
  exact hrun (supported sources) _

/-! ## What a project of sources knows -/

theorem known_ofSources_iff {file : String} :
    file ∈ (ofSources sources).files ↔ ∃ text, (file, text) ∈ supported sources := by
  rw [files_ofSources, StringSet.mem_ofList, List.mem_map]
  constructor
  · rintro ⟨⟨path, text⟩, hsource, rfl⟩
    exact ⟨text, hsource⟩
  · rintro ⟨text, hsource⟩
    exact ⟨(file, text), hsource, rfl⟩

/-- One file imports another exactly if one of the texts that it comes with has an import that is
resolved to the other. -/
theorem leads_ofSources_iff {file target : String} :
    target ∈ (ofSources sources).importGraph.linked file ↔
      ∃ text, (file, text) ∈ supported sources ∧ ∃ e ∈ ImportEdge.ofSource file text,
        SourceFile.resolve? (ofSources sources).files.contains file e.specifier = some target := by
  rw [importGraph_ofSources, StringMap.mem_linked_linkPairs, List.mem_flatMap]
  refine (or_iff_left StringSet.not_mem_empty).trans ?_
  constructor
  · rintro ⟨⟨path, text⟩, hsource, hpair⟩
    obtain ⟨e, he, heq⟩ := List.mem_filterMap.1 hpair
    obtain ⟨found, hfound, hfile⟩ := Option.map_eq_some_iff.1 heq
    obtain ⟨rfl, rfl⟩ := Prod.mk.inj hfile
    obtain rfl : e.source = path := ImportEdge.source_of_mem_ofSource he
    exact ⟨text, hsource, e, he, hfound⟩
  · rintro ⟨text, hsource, e, he, hfound⟩
    refine ⟨(file, text), hsource, List.mem_filterMap.2 ⟨e, he, ?_⟩⟩
    rw [hfound, ImportEdge.source_of_mem_ofSource he]
    rfl

/-- A file exports a symbol exactly if one of the texts that it comes with does. -/
theorem exports_ofSources_iff {symbol file : String} :
    file ∈ (ofSources sources).symbolIndex.linked symbol ↔
      ∃ text, (file, text) ∈ supported sources ∧
        ∃ r ∈ ExportRecord.ofSource file text, r.symbol = symbol := by
  rw [symbolIndex_ofSources, StringMap.foldl_linkPairs, StringMap.mem_linked_linkPairs,
    List.mem_flatMap]
  refine (or_iff_left StringSet.not_mem_empty).trans ?_
  constructor
  · rintro ⟨⟨path, text⟩, hsource, hpair⟩
    obtain ⟨r, hr, heq⟩ := List.mem_map.1 hpair
    obtain ⟨rfl, rfl⟩ := Prod.mk.inj heq
    obtain rfl : r.file = path := ExportRecord.file_of_mem_ofSource hr
    exact ⟨text, hsource, r, hr, rfl⟩
  · rintro ⟨text, hsource, r, hr, rfl⟩
    refine ⟨(file, text), hsource, List.mem_map.2 ⟨r, hr, ?_⟩⟩
    rw [ExportRecord.file_of_mem_ofSource hr]

/-- No file is listed without an import, and no symbol without an exporter. -/
theorem filled_ofSources (sources : List (String × String)) :
    (ofSources sources).importGraph.Filled ∧ (ofSources sources).symbolIndex.Filled := by
  rw [importGraph_ofSources, symbolIndex_ofSources, StringMap.foldl_linkPairs]
  exact ⟨StringMap.filled_empty.linkPairs _, StringMap.filled_empty.linkPairs _⟩

/-! ## The same sources -/

/-- **The same sources** make the same project, in whichever order they come, and however often. -/
theorem sameFacts_of_mem_iff
    (h : ∀ source, source ∈ supported sources ↔ source ∈ supported others) :
    SameFacts (ofSources sources) (ofSources others) := by
  obtain ⟨hfilled, hfilled'⟩ := filled_ofSources sources
  obtain ⟨hothers, hothers'⟩ := filled_ofSources others
  have hmirrored := mirrored_ofSources sources
  have hmirrored' := mirrored_ofSources others
  have hfiles : (ofSources sources).files = (ofSources others).files := by
    refine StringSet.ext_mem fun file => ?_
    rw [known_ofSources_iff, known_ofSources_iff]
    simp only [h]
  have himports : (ofSources sources).importGraph = (ofSources others).importGraph := by
    refine hfilled.ext hothers fun file target => ?_
    rw [leads_ofSources_iff, leads_ofSources_iff, hfiles]
    simp only [h]
  refine ⟨hfiles, himports, ?_, ?_⟩
  · -- the importers are read off the imports
    refine hmirrored.filled.ext hmirrored'.filled fun file other => ?_
    rw [hmirrored.transposed, hmirrored'.transposed, himports]
  · refine hfilled'.ext hothers' fun symbol file => ?_
    rw [exports_ofSources_iff, exports_ofSources_iff]
    simp only [h]

theorem mem_supported_iff {path text : String} :
    (path, text) ∈ supported sources ↔
      SourceFile.isSupported path = true ∧
        ∃ raw, (raw, text) ∈ sources ∧ Path.normalize raw = path := by
  rw [supported, List.mem_filter, List.mem_map]
  constructor
  · rintro ⟨⟨⟨raw, text⟩, hin, heq⟩, hsupported⟩
    obtain ⟨rfl, rfl⟩ := Prod.mk.inj heq
    exact ⟨hsupported, raw, hin, rfl⟩
  · rintro ⟨hsupported, raw, hin, rfl⟩
    exact ⟨⟨(raw, text), hin, rfl⟩, hsupported⟩

/-- **The order of the sources** does not count. Whatever order they are listed in, and wherever
files among them are put that are not read, they make the same project, which gives the same
answers, and each answer in the same order. -/
theorem same_reordered
    (hothers : ∀ other ∈ others, SourceFile.isSupported (Path.normalize other.1) = false)
    (hlisted : listed.Perm (sources ++ others)) :
    SameFacts (ofSources listed) (ofSources sources) ∧
      SameAnswers (ofSources listed) (ofSources sources) := by
  have hfacts : SameFacts (ofSources listed) (ofSources sources) := by
    refine sameFacts_of_mem_iff fun (path, text) => ?_
    rw [mem_supported_iff, mem_supported_iff]
    refine and_congr_right fun hsupported => exists_congr fun raw => and_congr_left fun hpath => ?_
    rw [hlisted.mem_iff, List.mem_append]
    refine or_iff_left fun hother => ?_
    have hnot := hothers (raw, text) hother
    rw [hpath, hsupported] at hnot
    cases hnot
  exact ⟨hfacts, sameAnswers_of_graphs hfacts.importGraph hfacts.reverseGraph hfacts.symbolIndex⟩

/-- A file that comes twice with different texts, an import of a file that is listed later, and
files that are not read, one of them with an import in it. -/
theorem same_reordered_with_repetition :
    let sources := [("a.ts", "import './b';"), ("./a.ts", "export const run = 1;"),
      ("b.ts", "export * from './a'")]
    let listed := [("b.ts", "export * from './a'"), ("c.md", "import './a';"),
      ("./a.ts", "export const run = 1;"), ("notes", ""), ("a.ts", "import './b';")]
    listed.Perm (sources ++ [("notes", ""), ("c.md", "import './a';")]) ∧
      SameFacts (ofSources listed) (ofSources sources) ∧
      SameAnswers (ofSources listed) (ofSources sources) := by
  intro sources listed
  have hothers : ∀ other ∈ [("notes", ""), ("c.md", "import './a';")],
      SourceFile.isSupported (Path.normalize other.1) = false := by decide
  have hlisted : listed.Perm (sources ++ [("notes", ""), ("c.md", "import './a';")]) := by decide
  exact ⟨hlisted, same_reordered hothers hlisted⟩

end Project

end CodeSnapshot

import CodeSnapshot.Proofs.Document.RoundTrip
import CodeSnapshot.Proofs.Project.KnownFiles

/-!
# Written sources — the project of a snapshot of some files

Files are written into a snapshot, and the project is read from the snapshot. What the project knows
is what it would know of the files themselves, but for a file without text, which has no range in the
snapshot and is none of its files.

* **`fileContent?_written`** — a text that is plain is given back as it was.
* **`sourcesOf_written`** — the sources found are the files that have a text and are read for imports.
* **`symbolIndex_ofSources`** — the symbols are told by the exports of the sources, each for itself.
* **`project_written`** — the headline: the project is that of the files with a text, and it is the
  project of all the files exactly if none of those that are read is empty.
-/

namespace CodeSnapshot

open Document (Writable written blockOf parse)

/-! ## Files of a written snapshot -/

namespace Document

variable {header : String} {files : List (String × String)}

/-- There are no tables among the files. -/
theorem metadata_written (path : String) (modified : Nat) (h : Writable header files) :
    (parse path modified (written header files)).metadata = {} := by
  have hnone : (files.map blockOf).filterMap Block.table? = [] := by
    rw [List.filterMap_map]
    exact List.filterMap_eq_nil_iff.2 fun file _ => rfl
  rw [metadata_blocks path modified (texts_written h) h.frameless h.isReadable, hnone]
  rfl

/-- No two files have the same path. -/
theorem Writable.eq_of_path_eq (h : Writable header files) {file other : String × String}
    (hfile : file ∈ files) (hother : other ∈ files) (hpath : other.1 = file.1) : other = file := by
  have hdistinct := h.distinct
  obtain ⟨front, back, rfl⟩ := List.append_of_mem hfile
  rw [List.map_append, List.map_cons, List.perm_middle.nodup_iff, List.nodup_cons,
    List.mem_append] at hdistinct
  rcases List.mem_append.1 hother with hfront | hrest
  · exact absurd (.inl (hpath ▸ List.mem_map_of_mem hfront)) hdistinct.1
  · rcases List.mem_cons.1 hrest with heq | hback
    · exact heq
    · exact absurd (.inr (hpath ▸ List.mem_map_of_mem hback)) hdistinct.1

theorem fileContent?_written (path : String) (modified : Nat) (h : Writable header files)
    {file : String × String} (hfile : file ∈ files) (hne : file.2 ≠ "")
    (hplain : Lines.Plain file.2.toList) :
    (parse path modified (written header files)).fileContent? file.1 = some file.2 := by
  obtain ⟨s, hrange, hlines⟩ := range?_written h hfile
  rw [if_neg hne] at hrange
  have hfound : (parse path modified (written header files)).fileRange? file.1 = some s.range := by
    rw [fileRange?, (h.file file hfile).normalize_eq]
    exact hrange
  rw [fileContent?, hfound, Option.map_some, textOf]
  refine congrArg some ?_
  rw [← Lines.joined_texts hplain, ← hlines]
  exact congrArg (Text.joined "\n") (Lines.texts_slice ..)

end Document

namespace Project

/-! ## Sources -/

theorem ofSources_congr {sources others : List (String × String)}
    (h : supported sources = supported others) : ofSources sources = ofSources others := by
  rw [ofSources, ofSources, h]

/-- What a source adds to the symbols. -/
def exportPairs (source : String × String) : List (String × String) :=
  (ExportRecord.ofSource source.1 source.2).map fun r => (r.symbol, r.file)

theorem symbolIndex_addSource (p : Project) (source : String × String) :
    (p.addSource source).symbolIndex = p.symbolIndex.linkPairs (exportPairs source) := by
  -- imports go into the graphs only, and exports go into the index, one by one
  have himports (edges : List ImportEdge) : (edges.foldl addImport p).symbolIndex = p.symbolIndex :=
    List.foldlRecOn (motive := fun q : Project => q.symbolIndex = p.symbolIndex) edges addImport rfl
      fun q hq e _ => by
        rw [← hq, addImport]
        split <;> rfl
  have hexports (records : List ExportRecord) (q : Project) :
      (records.foldl addExport q).symbolIndex =
        q.symbolIndex.linkPairs (records.map fun r => (r.symbol, r.file)) := by
    induction records generalizing q with
    | nil => rfl
    | cons r records ih => exact ih (q.addExport r)
  rw [addSource, hexports, himports]
  rfl

theorem symbolIndex_ofSources (sources : List (String × String)) :
    (ofSources sources).symbolIndex =
      (supported sources).foldl (fun m source => m.linkPairs (exportPairs source)) .empty := by
  have hrun (ss : List (String × String)) (p : Project) :
      (ss.foldl addSource p).symbolIndex =
        ss.foldl (fun m source => m.linkPairs (exportPairs source)) p.symbolIndex := by
    induction ss generalizing p with
    | nil => rfl
    | cons source ss ih => rw [List.foldl_cons, ih, symbolIndex_addSource, List.foldl_cons]
  exact hrun (supported sources) _

/-- Nothing is exported by a file without text. -/
theorem exportPairs_empty (path : String) : exportPairs (path, "") = [] := by
  have hnone : ∀ form ∈ ExportRecord.forms, form.pattern.matchesIn [] = [] := by decide
  have hfound : ExportRecord.ofSource path "" = [] := by
    rw [ExportRecord.ofSource]
    simp only [String.toList_empty]
    rw [List.flatMap_eq_nil_iff.2 fun form hform => by rw [hnone form hform]; rfl]
    rfl
  rw [exportPairs, hfound]
  rfl

theorem supported_eq (sources : List (String × String)) :
    supported sources = (sources.map fun source => (Path.normalize source.1, source.2)).filter
      (SourceFile.isSupported ·.1) :=
  rfl

theorem supported_filter (keep : String → Bool) (sources : List (String × String)) :
    supported (sources.filter (keep ·.2)) = (supported sources).filter (keep ·.2) := by
  have hmap : (sources.filter (keep ·.2)).map (fun source => (Path.normalize source.1, source.2)) =
      (sources.map fun source => (Path.normalize source.1, source.2)).filter (keep ·.2) := by
    rw [List.filter_map]
    rfl
  rw [supported_eq, supported_eq, hmap, List.filter_filter, List.filter_filter]
  exact List.filter_congr fun source _ => Bool.and_comm ..

/-- Files without text add nothing to the symbols. -/
theorem symbolIndex_filter (sources : List (String × String)) :
    (ofSources (sources.filter (·.2 ≠ ""))).symbolIndex = (ofSources sources).symbolIndex := by
  rw [symbolIndex_ofSources, symbolIndex_ofSources, supported_filter (· ≠ ""), List.foldl_filter]
  congr 1
  funext m source
  split
  · rfl
  · rename_i hempty
    obtain ⟨path, text⟩ := source
    obtain rfl : text = "" := by simpa using hempty
    rw [exportPairs_empty]
    rfl

variable {files : List (String × String)}

theorem supported_eq_filter (h : ∀ file ∈ files, Path.normalize file.1 = file.1) :
    supported files = files.filter (SourceFile.isSupported ·.1) := by
  have hsame : files.map (fun file => (Path.normalize file.1, file.2)) = files := by
    refine (List.map_congr_left fun file hfile => ?_).trans (List.map_id files)
    exact Prod.ext (h file hfile) rfl
  rw [supported_eq, hsame]

theorem supported_supported (h : ∀ file ∈ files, Path.normalize file.1 = file.1) :
    supported (supported files) = supported files := by
  have hnormal : ∀ file ∈ supported files, Path.normalize file.1 = file.1 := by
    rw [supported_eq_filter h]
    exact fun file hfile => h file (List.mem_filter.1 hfile).1
  rw [supported_eq_filter hnormal]
  exact List.filter_eq_self.2 fun file hfile => (List.mem_filter.1 hfile).2

/-! ## The project of a written snapshot -/

/-- The source files of a document, by their paths. -/
theorem sourcesOf_eq (d : Document) :
    sourcesOf d = ((d.files.map (·.1)).filter SourceFile.isSupported).filterMap fun path =>
      (d.fileContent? path).map (path, ·) := by
  rw [List.filter_map, List.filterMap_map]
  rfl

/-- The paths of the files with a text are in normal form. -/
theorem normalize_eq_of_mem_filter (h : Writable "" files) :
    ∀ file ∈ files.filter (·.2 ≠ ""), Path.normalize file.1 = file.1 :=
  fun file hfile => (h.file file (List.mem_filter.1 hfile).1).normalize_eq

theorem sourcesOf_written (path : String) (modified : Nat) (h : Writable "" files)
    (hplain : ∀ file ∈ files, Lines.Plain file.2.toList) :
    sourcesOf (parse path modified (written "" files)) = supported (files.filter (·.2 ≠ "")) := by
  have hpaths := (Document.consistent_parse path modified (written "" files)).map_files
  rw [Document.order_written path modified h] at hpaths
  have hself {sources : List (String × String)} {found : String × String → Option (String × String)}
      (hfound : ∀ source ∈ sources, found source = some source) :
      sources.filterMap found = sources := by
    induction sources with
    | nil => rfl
    | cons source sources ih =>
      obtain ⟨hsource, hsources⟩ := List.forall_mem_cons.1 hfound
      rw [List.filterMap_cons_some hsource, ih hsources]
  rw [sourcesOf_eq, hpaths, List.filter_map, List.filterMap_map,
    supported_eq_filter (normalize_eq_of_mem_filter h)]
  refine hself fun file hin => ?_
  obtain ⟨hfile, hne⟩ := List.mem_filter.1 (List.mem_filter.1 hin).1
  rw [Function.comp_apply, Document.fileContent?_written path modified h hfile (by simpa using hne)
    (hplain file hfile)]
  rfl

/-- The same facts, but for the places and the forms of the statements they are known from. -/
structure SameFacts (p q : Project) : Prop where
  files : p.files = q.files
  importGraph : p.importGraph = q.importGraph
  reverseGraph : p.reverseGraph = q.reverseGraph
  symbolIndex : p.symbolIndex = q.symbolIndex

theorem ofDocument_written (path : String) (modified : Nat) (h : Writable "" files)
    (hplain : ∀ file ∈ files, Lines.Plain file.2.toList) :
    ofDocument (parse path modified (written "" files)) =
      ofSources (files.filter (·.2 ≠ "")) := by
  have htables : (parse path modified (written "" files)).metadata.isEmpty = true := by
    rw [Document.metadata_written path modified h]
    rfl
  rw [ofDocument, htables]
  simp only [Bool.not_true, Bool.and_false, Bool.false_eq_true, if_false]
  rw [sourcesOf_written path modified h hplain]
  exact ofSources_congr (supported_supported (normalize_eq_of_mem_filter h))

theorem mem_files_ofSources (hnormal : ∀ file ∈ files, Path.normalize file.1 = file.1)
    {name : String} :
    name ∈ (ofSources files).files ↔
      ∃ file ∈ files, SourceFile.isSupported file.1 = true ∧ file.1 = name := by
  rw [files_ofSources, StringSet.mem_ofList, supported_eq_filter hnormal]
  simp [List.mem_filter, and_assoc]

/-- **The project of a snapshot of some files** is the project of those that are not empty. So it
has all the symbols of the project of the files themselves, and the same files and imports exactly if
none of the source files is empty. -/
theorem project_written (path : String) (modified : Nat) {files : List (String × String)}
    (h : Writable "" files) (hplain : ∀ file ∈ files, Lines.Plain file.2.toList) :
    let p := ofDocument (parse path modified (written "" files))
    p = ofSources (files.filter (·.2 ≠ "")) ∧
      p.symbolIndex = (ofSources files).symbolIndex ∧
      (SameFacts p (ofSources files) ↔
        ∀ file ∈ files, SourceFile.isSupported file.1 = true → file.2 ≠ "") := by
  intro p
  have hp : p = ofSources (files.filter (·.2 ≠ "")) := ofDocument_written path modified h hplain
  have hnormal : ∀ file ∈ files, Path.normalize file.1 = file.1 :=
    fun file hfile => (h.file file hfile).normalize_eq
  refine ⟨hp, ?_, fun hsame file hfile hsupported hempty => ?_, fun hfull => ?_⟩
  · rw [hp]
    exact symbolIndex_filter files
  · -- no other file has the name of the empty one
    have hin : file.1 ∈ (ofSources files).files :=
      (mem_files_ofSources hnormal).2 ⟨file, hfile, hsupported, rfl⟩
    rw [← hsame.files, hp, mem_files_ofSources (normalize_eq_of_mem_filter h)] at hin
    obtain ⟨other, hother, -, hname⟩ := hin
    obtain ⟨hother, hne⟩ := List.mem_filter.1 hother
    rw [h.eq_of_path_eq hfile hother hname, hempty] at hne
    simp at hne
  · have hall : supported (files.filter (·.2 ≠ "")) = supported files := by
      rw [supported_filter (· ≠ ""), supported_eq_filter hnormal]
      refine List.filter_eq_self.2 fun file hfile => ?_
      obtain ⟨hfile, hsupported⟩ := List.mem_filter.1 hfile
      exact decide_eq_true (hfull file hfile hsupported)
    have hsame : p = ofSources files := hp.trans (ofSources_congr hall)
    exact ⟨by rw [hsame], by rw [hsame], by rw [hsame], by rw [hsame]⟩

/-- Two files that import each other, a text that all but ends with a line feed, and empty files of
which none is read for imports. -/
theorem project_written_of_full_sources :
    let files := [("src/a.ts", "import { b } from './b';\nexport const a = 1;\n "),
      ("README.md", ""), ("src/b.ts", "export * from './a'"), ("notes", "")]
    (Writable "" files ∧ (∀ file ∈ files, Lines.Plain file.2.toList)) ∧
      SameFacts (ofDocument (parse "snapshot.txt" 0 (written "" files))) (ofSources files) := by
  intro files
  have h : Writable "" files := by decide +kernel
  have hplain : ∀ file ∈ files, Lines.Plain file.2.toList := by decide +kernel
  obtain ⟨-, -, hsame⟩ := project_written "snapshot.txt" 0 h hplain
  exact ⟨⟨h, hplain⟩, hsame.2 (by decide +kernel)⟩

/-- An import of an empty file: what is read from the snapshot does not have the file. -/
theorem not_sameFacts_of_empty_file :
    let files := [("a.ts", "import './b';"), ("b.ts", "")]
    let p := ofDocument (parse "snapshot.txt" 0 (written "" files))
    let q := ofSources files
    (Writable "" files ∧ (∀ file ∈ files, Lines.Plain file.2.toList)) ∧
      q.files.toList = ["a.ts", "b.ts"] ∧ q.importsOf "a.ts" = ["b.ts"] ∧
      p.files.toList = ["a.ts"] ∧ p.importsOf "a.ts" = [] ∧ ¬ SameFacts p q := by
  intro files p q
  have h : Writable "" files := by decide +kernel
  have hplain : ∀ file ∈ files, Lines.Plain file.2.toList := by decide +kernel
  have hfiles : q.files.toList = ["a.ts", "b.ts"] := by decide +kernel
  have himports : q.importsOf "a.ts" = ["b.ts"] := by decide +kernel
  have hp : p = ofSources [("a.ts", "import './b';")] := ofDocument_written "snapshot.txt" 0 h hplain
  have hfiles' : p.files.toList = ["a.ts"] := by
    rw [hp]
    decide +kernel
  have himports' : p.importsOf "a.ts" = [] := by
    rw [hp]
    decide +kernel
  refine ⟨⟨h, hplain⟩, hfiles, himports, hfiles', himports', fun hsame => ?_⟩
  have heq := congrArg StringSet.toList hsame.files
  rw [hfiles, hfiles'] at heq
  exact absurd heq (by decide)

end Project

end CodeSnapshot

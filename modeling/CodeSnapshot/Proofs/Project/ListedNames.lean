import CodeSnapshot.Document.Search
import CodeSnapshot.Proofs.Document.Ranges
import CodeSnapshot.Proofs.Path.Settled
import CodeSnapshot.Proofs.Project.MirroredGraphs

/-!
# Listed names — what a file is found by

A snapshot lists its files, and a project lists those that it was made from. Whoever asks for a file
by its listed name has that name brought into normal form once more.

* **`Path.Normalized`** — a name that went through one round. The names of a snapshot are such
  (`normalized_of_mem_files`), and so are those of its tables (`allNames_ofSections`) and of a project,
  however it was made (`Project.Made.normalized`).
* **`Document.Finds`**, **`Project.Knows`** — what it takes for a lookup by a listed name to succeed.
* **`Project.StoodFor`** — another file is taken for the one that is looked up, and nobody can tell.
* **`finds_listed_iff`** — the headline: a file of a snapshot is found by its name exactly if the name
  is settled; a project knows exactly these of its files, and those for which another one stands.
-/

namespace CodeSnapshot

open CodeSnapshot.Path (normalize normalizeChars IsSettled)

/-! ## Names that went through one round -/

/-- A name that is the normal form of some path. -/
def Path.Normalized (name : String) : Prop :=
  ∃ raw, normalize raw = name

theorem Path.normalized_ofList (raw : List Char) :
    Path.Normalized (String.ofList (normalizeChars raw)) :=
  ⟨String.ofList raw, by rw [normalize, String.toList_ofList]⟩

/-- **The round at a lookup** leaves a listed name alone exactly if it is settled. -/
theorem Path.Normalized.normalize_eq_iff {name : String} (h : Path.Normalized name) :
    normalize name = name ↔ IsSettled name.toList := by
  obtain ⟨raw, rfl⟩ := h
  exact Path.normalize_normalize_iff raw

/-- A title gives its file a normal form. -/
theorem Title.normalized_of_ofLine? {line file : String} (h : ofLine? line = some (.file file)) :
    Path.Normalized file := by
  rw [ofLine?] at h
  split at h
  · rename_i rest hrest
    dsimp only at h
    split at h
    · cases h
    · rw [← Title.file.inj (Option.some.inj h)]
      exact Path.normalized_ofList rest
  · -- a table is no file
    split at h
    · dsimp only at h
      split at h <;> cases h
    · cases h

namespace Document

variable {path : String} {modified : Nat} {text file : String} {r : FileRange}

theorem normalized_of_range? (h : (parse path modified text).range? file = some r) :
    Path.Normalized file := by
  obtain ⟨s, hs, htitle, -⟩ := exists_section_of_range? h
  obtain ⟨index, hframe, -⟩ := (placed_of_mem_sectionsOf hs).frame
  have hfound := ((Title.scanned_frames 0 _).bounds _ hframe).2.2
  obtain ⟨a, title, b, rest, -, -, -, hline⟩ := Title.ofFrame?_eq_some_iff.1 hfound
  rw [htitle] at hline
  exact Title.normalized_of_ofLine? hline

end Document

/-! ## Tables -/

namespace Metadata

/-- Names in normal form, in both tables of imports. -/
structure NormalTables (m : Metadata) : Prop where
  importGraph : m.importGraph.AllNames Path.Normalized
  whoImports : m.whoImports.AllNames Path.Normalized

variable {m : Metadata}

theorem normalized_of_entry {table : Table} {line key : String} {members : List String}
    (h : entryOf? table line = some (key, members)) :
    (table ≠ .exportIndex → Path.Normalized key) ∧ ∀ x ∈ members, Path.Normalized x := by
  rw [entryOf?] at h
  split at h
  · cases h
  · rename_i front rest hcut
    dsimp only at h
    split at h
    · cases h
    · obtain ⟨rfl, rfl⟩ := Prod.mk.inj (Option.some.inj h)
      constructor
      · intro htable
        cases table with
        | exportIndex => exact absurd rfl htable
        | importGraph | whoImports => exact Path.normalized_ofList (Text.trim front)
      · intro x hx
        obtain ⟨member, hmember, rfl⟩ := List.mem_map.1 hx
        obtain ⟨raw, -, rfl⟩ := List.mem_map.1 (List.mem_filter.1 hmember).1
        exact Path.normalized_ofList raw

/-- The lines of a section put names in normal form into their table. -/
theorem allNames_addLines {table : Table} (htable : table ≠ .exportIndex) (body : List String)
    {entries : StringMap StringSet} (h : entries.AllNames Path.Normalized) :
    (body.foldl
      (fun entries line =>
        match entryOf? table line with
        | some (k, members) => entries.linkAll k members
        | none => entries)
      entries).AllNames Path.Normalized := by
  refine List.foldlRecOn body _ h fun entries h line _ => ?_
  cases hentry : entryOf? table line with
  | none => exact h
  | some entry =>
    obtain ⟨hkey, hmembers⟩ := normalized_of_entry hentry
    exact h.linkAll (hkey htable) hmembers

theorem NormalTables.addLines (h : m.NormalTables) (table : Table) (body : List String) :
    (m.addLines table body).NormalTables := by
  cases table with
  | importGraph => exact ⟨allNames_addLines (by decide) body h.importGraph, h.whoImports⟩
  | exportIndex => exact ⟨h.importGraph, h.whoImports⟩
  | whoImports => exact ⟨h.importGraph, allNames_addLines (by decide) body h.whoImports⟩

theorem normalTables_ofSections (sections : List (String × List String)) :
    (ofSections sections).NormalTables := by
  refine List.foldlRecOn sections _ ⟨StringMap.allNames_empty, StringMap.allNames_empty⟩ ?_
  intro m h s _
  cases hname : Table.ofName? s.1 with
  | none => simpa only [hname] using h
  | some table => simpa only [hname] using h.addLines table s.2

end Metadata

/-! ## Projects -/

namespace Project

/-- A project of some files with their texts, or of a parsed snapshot. -/
inductive Made : Project → Prop where
  | ofSources (sources : List (String × String)) : Made (ofSources sources)
  | ofDocument (path : String) (modified : Nat) (text : String) :
      Made (ofDocument (Document.parse path modified text))

theorem files_addSource (p : Project) (source : String × String) :
    (p.addSource source).files = p.files := by
  have himport (p : Project) (e : ImportEdge) : (p.addImport e).files = p.files := by
    rw [addImport]
    split <;> rfl
  rw [addSource]
  refine List.foldlRecOn (motive := fun q : Project => q.files = p.files) _ addExport ?_
    fun q hq r _ => hq
  exact List.foldlRecOn (motive := fun q : Project => q.files = p.files) _ addImport rfl
    fun q hq e _ => (himport q e).trans hq

theorem files_ofSources (sources : List (String × String)) :
    (ofSources sources).files = StringSet.ofList ((supported sources).map (·.1)) :=
  List.foldlRecOn
    (motive := fun q : Project => q.files = StringSet.ofList ((supported sources).map (·.1)))
    _ addSource rfl
    fun q hq source _ => (files_addSource q source).trans hq

theorem normalized_ofSources {sources : List (String × String)} {file : String}
    (h : file ∈ (ofSources sources).files) : Path.Normalized file := by
  rw [files_ofSources, StringSet.mem_ofList] at h
  obtain ⟨source, hsource, rfl⟩ := List.mem_map.1 h
  obtain ⟨given, -, rfl⟩ := List.mem_map.1 (List.mem_filter.1 hsource).1
  exact ⟨given.1, rfl⟩

theorem normalized_ofMetadata {m : Metadata} (h : m.NormalTables) :
    ∀ file ∈ (ofMetadata m).files, Path.Normalized file := by
  intro file hfile
  rcases mem_files_ofMetadata.1 hfile with himports | himporters
  · exact StringMap.allNames_iff.1 h.importGraph file himports
  · exact StringMap.allNames_iff.1 h.whoImports file himporters

/-- **The files of a project** have names in normal form, whether they were given with their texts or
found in sections or tables. -/
theorem Made.normalized {p : Project} (h : Made p) : ∀ file ∈ p.files, Path.Normalized file := by
  cases h with
  | ofSources sources => exact fun file => normalized_ofSources
  | ofDocument path modified text =>
    rw [Project.ofDocument]
    split
    · exact normalized_ofMetadata (Metadata.normalTables_ofSections _)
    · exact fun file => normalized_ofSources

end Project

/-! ## Lookups -/

/-- A file is found under a name: its range, what its lines say, and the lines around each of them. -/
structure Document.Finds (d : Document) (file : String) (r : FileRange) : Prop where
  range : d.fileRange? file = some r
  content : d.fileContent? file =
    some (Text.joined "\n" ((d.lines.texts.take r.last).drop (r.first - 1)))
  window : ∀ line before after, ∃ w, d.contextWindow file line before after = .ok w ∧ w.file = file

/-- A file is known under a name: as a file of the project, with its neighbours in both graphs. -/
structure Project.Knows (p : Project) (file : String) : Prop where
  analyzed : p.isAnalyzed file = true
  imports : p.importsOf file = (p.importGraph.linked file).toList
  importers : p.importersOf file = (p.reverseGraph.linked file).toList

/-- Another file of the project stands for a file: it has the name that is looked up, and the same
neighbours. -/
structure Project.StoodFor (p : Project) (file : String) : Prop where
  other : normalize file ≠ file
  listed : normalize file ∈ p.files
  imports : p.importGraph.next (normalize file) = p.importGraph.next file
  importers : p.reverseGraph.next (normalize file) = p.reverseGraph.next file

theorem Document.finds_of_normalize_eq {d : Document} {file : String} {r : FileRange}
    (hr : d.range? file = some r) (h : normalize file = file) : d.Finds file r := by
  have hrange : d.fileRange? file = some r := by rw [fileRange?, h, hr]
  refine ⟨hrange, ?_, fun line before after => ?_⟩
  · rw [fileContent?, hrange, ← Lines.texts_slice]
    rfl
  · -- the name goes through two more rounds, one here and one where the range is looked up
    rw [contextWindow]
    simp only [h, hrange]
    exact ⟨_, rfl, rfl⟩

theorem Project.knows_of_normalize_eq {p : Project} {file : String} (hfile : file ∈ p.files)
    (h : normalize file = file) : p.Knows file where
  analyzed := by
    rw [isAnalyzed, h]
    exact StringSet.contains_iff.2 hfile
  imports := by rw [importsOf, h]; rfl
  importers := by rw [importersOf, h]; rfl

theorem Project.StoodFor.knows {p : Project} {file : String} (h : p.StoodFor file) :
    p.Knows file where
  analyzed := by
    rw [isAnalyzed]
    exact StringSet.contains_iff.2 h.listed
  imports := h.imports
  importers := h.importers

/-- What is known of a file is known of the file of the name that is looked up. -/
theorem Project.Knows.stoodFor {p : Project} {file : String} (h : p.Knows file)
    (hother : normalize file ≠ file) : p.StoodFor file where
  other := hother
  listed := StringSet.contains_iff.1 h.analyzed
  imports := h.imports
  importers := h.importers

/-- **Lookups by listed names.** A file that a snapshot lists is found by its name if and only if the
name is settled: where it is not, what is looked up is the range of another file or none at all, for
no line is in two ranges. And a project knows one of its files if and only if the file has a settled
name, or another file stands for it. -/
theorem finds_listed_iff (path : String) (modified : Nat) (text : String) {p : Project}
    (hmade : Project.Made p) :
    (∀ file r, (file, r) ∈ (Document.parse path modified text).files →
      ((Document.parse path modified text).Finds file r ↔ IsSettled file.toList)) ∧
    (∀ file ∈ p.files, p.Knows file ↔ IsSettled file.toList ∨ p.StoodFor file) := by
  constructor
  · intro file r hlisted
    have hr := (Document.consistent_parse path modified text).mem_files_iff.1 hlisted
    have hnormalized := Document.normalized_of_range? hr
    rw [← hnormalized.normalize_eq_iff]
    refine ⟨fun hfinds => ?_, Document.finds_of_normalize_eq hr⟩
    -- the first line of the range belongs to both names
    have hfirst : r.contains r.first = true := by
      obtain ⟨s, -, -, hlt, rfl⟩ := Document.exists_section_of_range? hr
      rw [FileRange.contains, Bool.and_eq_true_iff]
      exact ⟨decide_eq_true (Nat.le_refl _), decide_eq_true hlt⟩
    exact Document.eq_of_contains hfinds.range hfirst hr hfirst
  · intro file hfile
    rw [← (hmade.normalized file hfile).normalize_eq_iff]
    constructor
    · intro hknows
      by_cases hsame : normalize file = file
      · exact .inl hsame
      · exact .inr (hknows.stoodFor hsame)
    · rintro (hsame | hstood)
      · exact Project.knows_of_normalize_eq hfile hsame
      · exact hstood.knows

/-- A file with slashes of both kinds in its title, a table with `./` before a name, and a source that
is given with slashes around it. -/
theorem finds_listed_iff_at_slashes :
    let d := Document.parse "snapshot.txt" 0
      "====================\nFILE: .\\src\\a.ts/\n====================\nx\n\n"
    let p := Project.ofSources [("/src//a.ts/", "import './b'"), ("./src//b.ts", "")]
    (("src/a.ts", ⟨4, 4⟩) ∈ d.files ∧ d.Finds "src/a.ts" ⟨4, 4⟩) ∧
      ("src//b.ts" ∈ p.files ∧ p.Knows "src//b.ts") := by
  have hlisted : ("src/a.ts", (⟨4, 4⟩ : FileRange)) ∈ (Document.parse "snapshot.txt" 0
      "====================\nFILE: .\\src\\a.ts/\n====================\nx\n\n").files := by
    decide +kernel
  have hfile : "src//b.ts" ∈
      (Project.ofSources [("/src//a.ts/", "import './b'"), ("./src//b.ts", "")]).files := by
    rw [Project.files_ofSources, StringSet.mem_ofList]
    decide
  obtain ⟨hfinds, hknows⟩ := finds_listed_iff "snapshot.txt" 0
    "====================\nFILE: .\\src\\a.ts/\n====================\nx\n\n"
    (.ofSources [("/src//a.ts/", "import './b'"), ("./src//b.ts", "")])
  exact ⟨⟨hlisted, (hfinds _ _ hlisted).2 (by decide)⟩, hfile, (hknows _ hfile).2 (.inl (by decide))⟩

/-- A file whose name is not settled is known where another file has the name that is looked up. -/
example :
    let p := Project.ofSources [("/./a.ts", ""), ("a.ts", "")]
    p.StoodFor "./a.ts" := by
  refine ⟨by decide, ?_, rfl, rfl⟩
  rw [Project.files_ofSources, StringSet.mem_ofList]
  decide

/-- A title with `./` behind a slash lists a file that is not found by its name, and a project does
not know a source that was given so. -/
theorem not_finds_of_late_dot_slash :
    let d := Document.parse "snapshot.txt" 0
      "====================\nFILE: /./a.ts\n====================\nx\n"
    d.files = [("./a.ts", ⟨4, 4⟩)] ∧ d.fileRange? "./a.ts" = none ∧
      d.fileContent? "./a.ts" = none ∧
      (∀ line before after,
        d.contextWindow "./a.ts" line before after = .error (.fileNotFound "a.ts")) ∧
      ¬ d.Finds "./a.ts" ⟨4, 4⟩ ∧
      let p := Project.ofSources [("/./a.ts", "")]
      "./a.ts" ∈ p.files ∧ p.isAnalyzed "./a.ts" = false := by
  intro d
  have hfiles : d.files = [("./a.ts", ⟨4, 4⟩)] := by decide +kernel
  have hname : normalize "./a.ts" = "a.ts" := by decide
  have hname' : normalize "a.ts" = "a.ts" := by decide
  -- the name that is looked up is not listed
  have hrange : d.range? "a.ts" = none := by
    refine Option.eq_none_iff_forall_ne_some.2 fun r hr => ?_
    have hlisted := (Document.consistent_parse _ _ _).mem_files_iff.2 hr
    rw [hfiles] at hlisted
    simp at hlisted
  have hnone : d.fileRange? "./a.ts" = none := by rw [Document.fileRange?, hname, hrange]
  have hnone' : d.fileRange? "a.ts" = none := by rw [Document.fileRange?, hname', hrange]
  refine ⟨hfiles, hnone, ?_, fun line before after => ?_, fun h => ?_, ?_, ?_⟩
  · rw [Document.fileContent?, hnone]
    rfl
  · simp only [Document.contextWindow, hname, hnone']
  · exact Option.some_ne_none _ (h.range.symm.trans hnone)
  · rw [Project.files_ofSources, StringSet.mem_ofList]
    decide
  · rw [Project.isAnalyzed, Project.files_ofSources]
    decide

end CodeSnapshot

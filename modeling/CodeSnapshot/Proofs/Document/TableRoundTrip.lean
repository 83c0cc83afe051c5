import CodeSnapshot.Proofs.Document.Blocks
import CodeSnapshot.Proofs.Document.RoundTrip
import CodeSnapshot.Proofs.Document.TableEntries

/-!
# Table round trip — tables that are written and read again

The tables of a project are written as a snapshot of their own, each as one section with a line an
entry, and a table without entries not at all. What is read from such a snapshot are the same tables
and nothing besides.

* **`Metadata.Writable`** — tables all of whose keys and members keep their place in a line.
* **`texts_render`** — the lines of the tables as they are written: one block for each table that has
  entries.
* **`get_foldl_addLines`** — the sections of different tables do not get into each other's way.
* **`metadata_render`** — the tables are read back, those keys included that have no members.
* **`files_render`** — there are no files between the tables.
* **`tablesReadBack_render`** — the headline: the tables come back, and there are neither files nor a
  header.
-/

namespace CodeSnapshot

open Title

namespace Metadata

/-- Tables that can be written: every entry is a line that can be read again. -/
structure Writable (m : Metadata) : Prop where
  key : ∀ table, ∀ e ∈ (m.get table).entries, WritableKey table e.1
  member : ∀ table, ∀ e ∈ (m.get table).entries, ∀ name ∈ e.2.toList, WritableName name

instance (m : Metadata) : Decidable m.Writable :=
  decidable_of_iff
    ((∀ table ∈ Table.all, ∀ e ∈ (m.get table).entries, WritableKey table e.1) ∧
      ∀ table ∈ Table.all, ∀ e ∈ (m.get table).entries, ∀ name ∈ e.2.toList, WritableName name)
    ⟨fun ⟨hkey, hmember⟩ =>
        ⟨fun table => hkey table (Table.mem_all table),
          fun table => hmember table (Table.mem_all table)⟩,
      fun h => ⟨fun table _ => h.key table, fun table _ => h.member table⟩⟩

/-- Tables each of whose entries is one line, whatever is read from it. -/
def Lined (m : Metadata) : Prop :=
  ∀ table, ∀ e ∈ (m.get table).entries,
    (Lines.ofText (renderEntry table e)).texts = [entryLine table e]

/-! ## One table -/

theorem get_set (m : Metadata) (table other : Table) (value : StringMap StringSet) :
    (m.set table value).get other = if other = table then value else m.get other := by
  cases table <;> cases other <;> rfl

theorem ext_get {m n : Metadata} (h : ∀ table, m.get table = n.get table) : m = n := by
  have himport := h .importGraph
  have hexport := h .exportIndex
  have hwho := h .whoImports
  cases m
  cases n
  cases himport
  cases hexport
  cases hwho
  rfl

/-- The block that a table is written as. -/
def blockOf (m : Metadata) (table : Table) : Document.Block :=
  ⟨"METADATA: " ++ table.name, .metadata table.name, (m.get table).entries.map (entryLine table)⟩

section

variable {m : Metadata} {table : Table}

theorem Writable.readable (h : m.Writable) (table : Table) :
    ∀ e ∈ (m.get table).entries,
      ReadableKey table e.1 ∧ ∀ name ∈ e.2.toList, WritableName name :=
  fun e he => ⟨(h.key table e he).readable, h.member table e he⟩

theorem Writable.lined (h : m.Writable) : m.Lined :=
  fun table e he => texts_renderEntry (h.readable table e he).1 (h.readable table e he).2

theorem isReadable_blockOf (m : Metadata) (table : Table) : (blockOf m table).IsReadable where
  title := by
    show ofLine? ("METADATA: " ++ table.name) = some (.metadata table.name)
    cases table <;> decide
  frameless := by
    refine frameless_of_isSeparator fun line hline => ?_
    obtain ⟨e, -, rfl⟩ := List.mem_map.1 hline
    exact isSeparator_entryLine table e

theorem texts_renderEntries (entries : List (String × StringSet))
    (h : ∀ e ∈ entries, (Lines.ofText (renderEntry table e)).texts = [entryLine table e]) :
    (Lines.ofText (String.join (entries.map (renderEntry table)) ++ "\n")).texts =
      entries.map (entryLine table) ++ [""] := by
  induction entries with
  | nil =>
    show (Lines.ofText ("" ++ "\n")).texts = [""]
    decide
  | cons e entries ih =>
    obtain ⟨hline, hentries⟩ := List.forall_mem_cons.1 h
    have hclosed : Lines.Closed (renderEntry table e).toList := Lines.closed_append_newline _
    rw [List.map_cons, String.join_cons, String.append_assoc, Lines.texts_append hclosed,
      hline, ih hentries]
    rfl

/-- The lines of a table with entries are those of its block. -/
theorem texts_renderTable (h : m.Lined) (hne : (m.get table).isEmpty = false) :
    (Lines.ofText (m.renderTable table)).texts = (blockOf m table).lines := by
  have hname : '\n' ∉ ("METADATA: " ++ table.name).toList ∧
      ("METADATA: " ++ table.name).toList.getLast? ≠ some '\r' := by cases table <;> decide
  have hclosed : Lines.Closed (renderMetadata table.name).toList := Lines.closed_append_newline _
  rw [renderTable]
  simp only [hne, Bool.false_eq_true, if_false]
  rw [String.append_assoc, Lines.texts_append hclosed, renderMetadata,
    Document.texts_frame hname.1 hname.2, texts_renderEntries _ (h table)]
  exact (List.append_assoc ..).symm

theorem closed_renderTable (m : Metadata) (table : Table) :
    Lines.Closed (m.renderTable table).toList := by
  rw [renderTable]
  split
  · exact .inl rfl
  · exact Lines.closed_append_newline _

end

/-! ## All tables -/

/-- The tables that are written. -/
def filled (m : Metadata) : List Table :=
  Table.all.filter fun table => !(m.get table).isEmpty

section

variable {m : Metadata}

theorem isReadable_filled (m : Metadata) : ∀ b ∈ m.filled.map (blockOf m), b.IsReadable := by
  intro b hb
  obtain ⟨table, -, rfl⟩ := List.mem_map.1 hb
  exact isReadable_blockOf m table

/-- There are no lines before the first table. -/
theorem frameless_separator : Frameless ([] ++ [separator]) := by decide

theorem texts_render (h : m.Lined) :
    (Lines.ofText m.render).texts =
      [] ++ (m.filled.map (blockOf m)).flatMap Document.Block.lines := by
  rw [render, filled, List.nil_append]
  generalize Table.all = ts
  induction ts with
  | nil => rfl
  | cons table ts ih =>
    rw [List.map_cons, String.join_cons, Lines.texts_append (closed_renderTable m table), ih,
      List.filter_cons]
    cases hempty : (m.get table).isEmpty with
    | true =>
      have hnothing : m.renderTable table = "" := by
        rw [renderTable]
        simp only [hempty, if_true]
      rw [hnothing]
      rfl
    | false =>
      rw [texts_renderTable h hempty]
      rfl

/-- **The sections of different tables.** Each fills its own table and leaves the others alone. -/
theorem get_foldl_addLines (h : m.Writable) {ts : List Table} (hts : ts.Nodup) {acc : Metadata}
    (hacc : ∀ table ∈ ts, acc.get table = .empty) (table : Table) :
    (ts.foldl (fun acc t => acc.addLines t ((m.get t).entries.map (entryLine t))) acc).get table =
      if table ∈ ts then m.get table else acc.get table := by
  -- on the tables, with what was filled before; none of them comes a second time
  induction ts generalizing acc with
  | nil => rfl
  | cons t ts ih =>
    obtain ⟨ht, hts⟩ := List.nodup_cons.1 hts
    obtain ⟨hempty, hacc⟩ := List.forall_mem_cons.1 hacc
    have hadd (other : Table) :
        (acc.addLines t ((m.get t).entries.map (entryLine t))).get other =
          if other = t then m.get t else acc.get other := by
      rw [addLines_entryLines hempty (h.readable t), get_set]
    have hrest : ∀ other ∈ ts,
        (acc.addLines t ((m.get t).entries.map (entryLine t))).get other = .empty := by
      intro other hother
      rw [hadd, if_neg (ne_of_mem_of_not_mem hother ht), hacc other hother]
    rw [List.foldl_cons, ih hts hrest, hadd]
    by_cases heq : table = t
    · subst heq
      simp [ht]
    · simp [heq]

/-- The tables that are read from the lines of tables. -/
theorem metadata_render_of_lined (h : m.Lined) (path : String) (modified : Nat) :
    (Document.parse path modified m.render).metadata =
      ofSections (m.filled.map fun t => (t.name, (m.get t).entries.map (entryLine t))) := by
  have htables : (m.filled.map (blockOf m)).filterMap Document.Block.table? =
      m.filled.map fun t => (t.name, (m.get t).entries.map (entryLine t)) := by
    have hsome : Document.Block.table? ∘ blockOf m =
        some ∘ fun t => (t.name, (m.get t).entries.map (entryLine t)) := rfl
    rw [List.filterMap_map, hsome, List.filterMap_eq_map]
  rw [Document.metadata_blocks path modified (texts_render h) frameless_separator
    (isReadable_filled m), htables]

/-- **The tables are read back.** -/
theorem metadata_render (h : m.Writable) (path : String) (modified : Nat) :
    (Document.parse path modified m.render).metadata = m := by
  have hnames (t : Table) : Table.ofName? t.name = some t := by cases t <;> decide
  have hnodup : m.filled.Nodup := List.Pairwise.filter _ (by decide)
  have hnothing (t : Table) : Metadata.get {} t = .empty := by cases t <;> rfl
  rw [metadata_render_of_lined h.lined, ofSections, List.foldl_map]
  simp only [hnames]
  refine ext_get fun table => ?_
  rw [get_foldl_addLines h hnodup fun t _ => hnothing t]
  by_cases htable : table ∈ m.filled
  · rw [if_pos htable]
  · -- what is not written has no entries
    have hempty : (m.get table).isEmpty = true := by
      simpa [filled, Table.mem_all] using htable
    rw [if_neg htable, StringMap.eq_empty_of_isEmpty hempty]
    exact hnothing table

theorem sectionsOf_render (h : m.Lined) :
    Document.sectionsOf (Lines.ofText m.render).texts =
      Document.Block.sectionsAt 0 (m.filled.map (blockOf m)) := by
  rw [texts_render h, Document.sectionsOf_blocks frameless_separator (isReadable_filled m)]
  rfl

/-- None of the sections holds a file. -/
theorem listingOf_render (h : m.Lined) :
    Document.listingOf (Lines.ofText m.render).texts = {} := by
  have hnone (ts : List Table) (index : Nat) :
      (Document.Block.sectionsAt index (ts.map (blockOf m))).foldl Document.Listing.add {} = {} := by
    induction ts generalizing index with
    | nil => rfl
    | cons table ts ih => exact ih _
  rw [Document.listingOf, sectionsOf_render h, hnone]

theorem files_render (h : m.Lined) (path : String) (modified : Nat) :
    (Document.parse path modified m.render).files = [] := by
  have horder := Document.order_parse path modified m.render
  rw [listingOf_render h] at horder
  rw [Document.files, horder]
  rfl

/-- A document has these tables and nothing else. -/
structure TablesReadBack (d : Document) (m : Metadata) : Prop where
  metadata_eq : d.metadata = m
  ranges_eq : d.ranges = []
  files_eq : d.files = []
  header_eq : d.header = []

/-- **Tables that are written are read again.** -/
theorem tablesReadBack_render (path : String) (modified : Nat) (m : Metadata) (h : m.Writable) :
    TablesReadBack (Document.parse path modified m.render) m := by
  constructor
  case metadata_eq => exact metadata_render h path modified
  case ranges_eq =>
    show (Document.listingOf (Lines.ofText m.render).texts).ranges = []
    rw [listingOf_render h.lined]
  case files_eq => exact files_render h.lined path modified
  case header_eq =>
    have hlimit := Document.limitOf_framesAt [] (m.filled.map (blockOf m))
    rw [Document.header_parse, texts_render h.lined,
      Document.frames_blocks frameless_separator (isReadable_filled m), hlimit]
    rfl

end

/-- Names with the marks of the other tables, blanks and separators in them, and keys without any
members. -/
theorem tablesReadBack_render_marks :
    let names := [".a", "- >", "a <- b", "====================", "x: y -> z"]
    let graph := StringMap.empty.linkAll "a <- b" names |>.linkAll "- >" [] |>.linkAll "c<d:" []
    let exports := StringMap.empty.linkAll "f -> g, h <- i" names |>.linkAll "METADATA" []
    let who := StringMap.empty.linkAll "x: y -> z" ["a <- b"] |>.linkAll "FILE: x" []
    let m : Metadata := ⟨graph, exports, who⟩
    m.Writable ∧ TablesReadBack (Document.parse "snapshot.txt" 0 m.render) m := by
  intro names graph exports who m
  have h : m.Writable := by decide +kernel
  exact ⟨h, tablesReadBack_render "snapshot.txt" 0 m h⟩

end Metadata

end CodeSnapshot

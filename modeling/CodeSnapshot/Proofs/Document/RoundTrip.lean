import CodeSnapshot.Proofs.Document.Blocks
import CodeSnapshot.Proofs.Document.Listing
import CodeSnapshot.Proofs.Path.NormalForm

/-!
# Round trip — files that are written and read again

A file is written with one blank line behind its content, and with a line feed before that if the
content does not end with one. Both are gone when the snapshot is read:

* **`texts_renderFile`** — the lines of a file as it is written are a block with the lines of its
  content.
* **`range?_written`** — a file has the range of its block, and none if its content is empty.
* **`readsBack_parse`** — the headline: the header, the files in order, and the lines of each come
  back. How a content ends, and how its lines do, makes no difference.
-/

namespace CodeSnapshot.Document

open Title

/-- A file that can be written: its path is in normal form and is one line, and no frame is among the
lines of its content. -/
structure WritableFile (file : String × String) : Prop where
  ne_empty : file.1 ≠ ""
  one_line : '\n' ∉ file.1.toList
  normalize_eq : Path.normalize file.1 = file.1
  frameless : Frameless (Lines.ofText file.2).texts

instance (file : String × String) : Decidable (WritableFile file) :=
  decidable_of_iff
    (file.1 ≠ "" ∧ '\n' ∉ file.1.toList ∧ Path.normalize file.1 = file.1 ∧
      Frameless (Lines.ofText file.2).texts)
    ⟨fun ⟨hne, hline, hnormal, hframeless⟩ => ⟨hne, hline, hnormal, hframeless⟩,
      fun h => ⟨h.ne_empty, h.one_line, h.normalize_eq, h.frameless⟩⟩

/-- A header and files, given by path and content, that can be written into one snapshot. A frame may
begin neither in the header nor with a separator behind it. -/
structure Writable (header : String) (files : List (String × String)) : Prop where
  closed : header = "" ∨ header.endsWith "\n" = true
  frameless : Frameless ((Lines.ofText header).texts ++ [separator])
  distinct : (files.map (·.1)).Nodup
  file : ∀ file ∈ files, WritableFile file

instance (header : String) (files : List (String × String)) : Decidable (Writable header files) :=
  decidable_of_iff
    ((header = "" ∨ header.endsWith "\n" = true) ∧
      Frameless ((Lines.ofText header).texts ++ [separator]) ∧ (files.map (·.1)).Nodup ∧
        ∀ file ∈ files, WritableFile file)
    ⟨fun ⟨hclosed, hframeless, hdistinct, hfile⟩ => ⟨hclosed, hframeless, hdistinct, hfile⟩,
      fun h => ⟨h.closed, h.frameless, h.distinct, h.file⟩⟩

/-- The block that a file is written as. -/
def blockOf (file : String × String) : Block :=
  ⟨fileLine file.1, .file file.1, (Lines.ofText file.2).texts⟩

/-- A header, and files as sections behind it. -/
def written (header : String) (files : List (String × String)) : String :=
  header ++ String.join (files.map fun file => renderFile file.1 file.2)

/-- A document has this header and these files, in order and with their lines. An empty file has no
range. -/
structure ReadsBack (d : Document) (header : String) (files : List (String × String)) : Prop where
  header_eq : d.header = (Lines.ofText header).texts
  paths_eq : d.files.map (·.1) = (files.filter (·.2 ≠ "")).map (·.1)
  lines_eq : ∀ file ∈ files, file.2 ≠ "" → ∃ r, (file.1, r) ∈ d.files ∧
    d.fileRange? file.1 = some r ∧
      (d.lines.slice r.first r.last).map (·.text) = (Lines.ofText file.2).texts
  empty : ∀ file ∈ files, file.2 = "" → d.fileRange? file.1 = none

/-! ## Writing -/

theorem texts_frame {line : String} (h : '\n' ∉ line.toList)
    (hreturn : line.toList.getLast? ≠ some '\r') :
    (Lines.ofText (frame line)).texts = [separator, line, separator] := by
  have hseparator : (Lines.ofText (separator ++ "\n")).texts = [separator] :=
    Lines.texts_line (by decide) (by decide)
  have hsplit : frame line = (separator ++ "\n") ++ ((line ++ "\n") ++ (separator ++ "\n")) := by
    simp only [frame, String.append_assoc]
  rw [hsplit, Lines.texts_append (Lines.closed_append_newline separator),
    Lines.texts_append (Lines.closed_append_newline line), hseparator,
    Lines.texts_line h hreturn]
  rfl

/-- A content is closed, if need be, by a line feed, which changes none of its lines. -/
theorem texts_closed (content : String) :
    let ended := content ++ if content.isEmpty || content.endsWith "\n" then "" else "\n"
    Lines.Closed ended.toList ∧ (Lines.ofText ended).texts = (Lines.ofText content).texts := by
  have hclosed := Lines.closed_iff content
  by_cases h : Lines.Closed content.toList
  · rw [if_pos (hclosed.1 h), String.append_empty]
    exact ⟨h, rfl⟩
  · rw [if_neg fun hend => h (hclosed.2 hend)]
    exact ⟨Lines.closed_append_newline content, Lines.texts_append_newline h⟩

theorem closed_renderFile (path content : String) :
    Lines.Closed (renderFile path content).toList :=
  Lines.closed_append_newline _

section

variable {file : String × String}

theorem WritableFile.isNormal (h : WritableFile file) : Path.IsNormal file.1.toList :=
  Path.isNormal_of_normalize_eq h.normalize_eq h.ne_empty

theorem WritableFile.isReadable (h : WritableFile file) : (blockOf file).IsReadable where
  title := ofLine?_fileLine h.isNormal
  frameless := h.frameless

/-- **The lines of a file as it is written.** -/
theorem texts_renderFile (h : WritableFile file) :
    (Lines.ofText (renderFile file.1 file.2)).texts = (blockOf file).lines := by
  have hline : '\n' ∉ (fileLine file.1).toList := not_mem_fileLine h.one_line
  -- a carriage return is a blank, with which a path in normal form does not end
  have hreturn : (fileLine file.1).toList.getLast? ≠ some '\r' := by
    obtain ⟨init, c, hlast, hc⟩ := exists_concat_fileLine h.isNormal
    rw [hlast, List.getLast?_concat]
    rintro heq
    cases heq
    cases hc
  obtain ⟨hclosed, htexts⟩ := texts_closed file.2
  have hframe : Lines.Closed (frame (fileLine file.1)).toList := Lines.closed_append_newline _
  have hsplit (a b c d : String) : a ++ b ++ c ++ d = a ++ ((b ++ c) ++ d) := by
    simp only [String.append_assoc]
  rw [renderFile, h.normalize_eq, ← fileLine, hsplit, Lines.texts_append hframe,
    Lines.texts_append hclosed, texts_frame hline hreturn, htexts]
  exact (List.append_assoc ..).symm

theorem texts_join {files : List (String × String)} (h : ∀ file ∈ files, WritableFile file) :
    (Lines.ofText (String.join (files.map fun file => renderFile file.1 file.2))).texts =
      (files.map blockOf).flatMap Block.lines := by
  induction files with
  | nil => rfl
  | cons file files ih =>
    rw [List.map_cons, String.join_cons, Lines.texts_append (closed_renderFile _ _),
      texts_renderFile (h file (List.mem_cons_self ..)),
      ih fun other hother => h other (List.mem_cons_of_mem file hother)]
    rfl

end

/-! ## Reading -/

theorem path?_sectionsAt (index : Nat) (files : List (String × String)) :
    (Block.sectionsAt index (files.map blockOf)).filterMap Section.path? = files.map (·.1) := by
  induction files generalizing index with
  | nil => rfl
  | cons file files ih =>
    have hpath : ((blockOf file).sectionAt index).path? = some file.1 := rfl
    rw [List.map_cons, Block.sectionsAt, List.filterMap_cons_some hpath, ih]
    rfl

/-- A section has lines if its file is not empty. -/
theorem rangeOf?_sectionAt (index : Nat) (file : String × String) :
    ((blockOf file).sectionAt index).rangeOf? file.1 =
      if file.2 = "" then none else some ((blockOf file).sectionAt index).range := by
  have hempty : ((blockOf file).sectionAt index).isEmpty = true ↔ file.2 = "" := by
    rw [← Lines.texts_eq_nil_iff, ← List.length_eq_zero_iff]
    show decide (index + frameLines + (Lines.ofText file.2).texts.length ≤ index + frameLines) =
      true ↔ _
    rw [decide_eq_true_iff]
    omega
  have hpath : ((blockOf file).sectionAt index).path? = some file.1 := rfl
  rw [Section.rangeOf?]
  by_cases h : file.2 = ""
  · rw [if_pos h, if_neg]
    simp [hempty.2 h]
  · rw [if_neg h, if_pos ⟨hpath, Bool.eq_false_iff.2 fun hlines => h (hempty.1 hlines)⟩]

section

variable {header : String} {files : List (String × String)}

theorem Writable.closed_header (h : Writable header files) : Lines.Closed header.toList := by
  rw [Lines.closed_iff, Bool.or_eq_true, String.isEmpty_iff]
  exact h.closed

theorem Writable.isReadable (h : Writable header files) :
    ∀ b ∈ files.map blockOf, b.IsReadable := by
  intro b hb
  obtain ⟨file, hfile, rfl⟩ := List.mem_map.1 hb
  exact (h.file file hfile).isReadable

theorem texts_written (h : Writable header files) :
    (Lines.ofText (written header files)).texts =
      (Lines.ofText header).texts ++ (files.map blockOf).flatMap Block.lines := by
  rw [written, Lines.texts_append h.closed_header, texts_join h.file]

theorem sectionsOf_written (h : Writable header files) :
    sectionsOf (Lines.ofText (written header files)).texts =
      Block.sectionsAt (Lines.ofText header).texts.length (files.map blockOf) := by
  rw [texts_written h, sectionsOf_blocks h.frameless h.isReadable]

theorem nodup_path?_written (h : Writable header files) :
    ((sectionsOf (Lines.ofText (written header files)).texts).filterMap Section.path?).Nodup := by
  rw [sectionsOf_written h, path?_sectionsAt]
  exact h.distinct

/-- **The range of a file** is the content of its section. -/
theorem range?_written (h : Writable header files) {file : String × String} (hfile : file ∈ files) :
    ∃ s : Section,
      (listingOf (Lines.ofText (written header files)).texts).range? file.1 =
          (if file.2 = "" then none else some s.range) ∧
        between (Lines.ofText (written header files)).texts s.start s.stop =
          (Lines.ofText file.2).texts := by
  have hblock : blockOf file ∈ files.map blockOf := List.mem_map.2 ⟨file, hfile, rfl⟩
  obtain ⟨index, hs, hlines⟩ := exists_sectionAt_of_mem (Lines.ofText header).texts hblock
  rw [← texts_written h] at hlines
  rw [← sectionsOf_written h] at hs
  refine ⟨(blockOf file).sectionAt index, ?_, hlines⟩
  rw [range?_listingOf, filterMap_rangeOf?_of_mem (nodup_path?_written h) hs rfl,
    rangeOf?_sectionAt]
  split <;> rfl

/-- The files with lines, in order. -/
theorem order_written (path : String) (modified : Nat) (h : Writable header files) :
    (parse path modified (written header files)).order =
      (files.filter (·.2 ≠ "")).map (·.1) := by
  have horder : (listingOf (Lines.ofText (written header files)).texts).order =
      (files.map (·.1)).reverse := by
    rw [listingOf, order_foldl_add (nodup_path?_written h) fun _ _ => rfl, sectionsOf_written h,
      path?_sectionsAt]
    exact List.append_nil _
  rw [order_parse, horder, List.filter_reverse, List.reverse_reverse, List.filter_map]
  congr 1
  refine List.filter_congr fun file hfile => ?_
  obtain ⟨s, hrange, -⟩ := range?_written h hfile
  rw [Function.comp_apply, hrange]
  by_cases hempty : file.2 = "" <;> simp [hempty]

/-- **Files that are written are read again.** -/
theorem readsBack_parse (path : String) (modified : Nat) (header : String)
    (files : List (String × String)) (h : Writable header files) :
    ReadsBack (parse path modified (written header files)) header files := by
  have hconsistent := consistent_parse path modified (written header files)
  constructor
  case header_eq =>
    rw [header_parse, texts_written h, frames_blocks h.frameless h.isReadable, limitOf_framesAt,
      List.take_left]
  case paths_eq =>
    rw [hconsistent.map_files, order_written path modified h]
  case lines_eq =>
    intro file hfile hne
    obtain ⟨s, hrange, hlines⟩ := range?_written h hfile
    rw [if_neg hne] at hrange
    refine ⟨s.range, hconsistent.mem_files_iff.2 hrange, ?_, ?_⟩
    · rw [fileRange?, (h.file file hfile).normalize_eq]
      exact hrange
    · exact (Lines.texts_slice ..).trans hlines
  case empty =>
    intro file hfile hempty
    obtain ⟨s, hrange, -⟩ := range?_written h hfile
    rw [if_pos hempty] at hrange
    rw [fileRange?, (h.file file hfile).normalize_eq]
    exact hrange

end

/-- A header and contents that all but have frames; one file is empty, one ends with blank lines, and
one without a line feed. -/
theorem readsBack_parse_near_frames :
    let header := "====================\nFILE: ./a.ts\nSnapshot\n"
    let files := [("src/a.ts", "one\r\n\r\n\n"), ("b.ts", ""),
      ("c d.ts", "====================\nFILE: ./b.ts")]
    Writable header files ∧
      ReadsBack (parse "snapshot.txt" 0 (written header files)) header files := by
  intro header files
  have h : Writable header files := by decide +kernel
  exact ⟨h, readsBack_parse "snapshot.txt" 0 header files h⟩

end CodeSnapshot.Document

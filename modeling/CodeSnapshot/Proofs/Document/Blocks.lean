import CodeSnapshot.Proofs.Document.Sections

/-!
# Blocks — sections as they are written

A section is written as a block of lines: a frame, the content, and a blank line. Blocks that stand
one after the other, with some lines before them, are found again as sections with these contents.

* **`Block.frames_lines`** — the scan over one block, whatever comes behind it. The blank line is what
  keeps the content and the next block apart.
* **`frames_blocks`** — the scan over lines and the blocks behind them.
* **`sectionsOf_blocks`** — the sections found are those of the blocks; the blank lines are no part
  of them.
* **`exists_sectionAt_of_mem`** — in the lines of its section stands the content of a block.
* **`metadata_blocks`** — the tables that are read are those of the blocks that hold tables.

The contents and the lines before the blocks must be without frames. They may have separators and
titles otherwise, at their ends as well.
-/

namespace CodeSnapshot

namespace Title

theorem isSeparator_separator : isSeparator separator = true := by decide

theorem isSeparator_empty : isSeparator "" = false := by decide

theorem ofLine?_empty : ofLine? "" = none := by decide

theorem ofFrame?_cons_blank (line : String) (next : List String) :
    ofFrame? (line :: "" :: next) = none := by
  cases next with
  | nil => rfl
  | cons b next =>
    rw [ofFrame?, ofLine?_empty]
    exact ite_self none

theorem ofFrame?_blank_cons (next : List String) : ofFrame? ("" :: next) = none := by
  match next with
  | [] | [_] => rfl
  | title :: b :: next =>
    rw [ofFrame?, isSeparator_empty, Bool.false_and]
    rfl

end Title

namespace Document

open Title

/-- A section to be written: its title line, what that is read as, and its content. -/
structure Block where
  line : String
  title : Title
  content : List String

namespace Block

/-- The frame of a block. -/
def frame (b : Block) : List String :=
  [separator, b.line, separator]

/-- The lines of a block. -/
def lines (b : Block) : List String :=
  b.frame ++ b.content ++ [""]

/-- A block that is found again. -/
structure IsReadable (b : Block) : Prop where
  title : ofLine? b.line = some b.title
  frameless : Frameless b.content

/-- The section of a block whose first line has this index. -/
def sectionAt (index : Nat) (b : Block) : Section :=
  ⟨b.title, index + frameLines, index + frameLines + b.content.length⟩

/-- The table, if a block holds one. -/
def table? (b : Block) : Option (String × List String) :=
  match b.title with
  | .metadata name => some (name, b.content)
  | .file _ => none

/-- The frames of blocks, when the first line has this index. -/
def framesAt : (index : Nat) → List Block → List (Nat × Title)
  | _, [] => []
  | index, b :: bs => (index, b.title) :: framesAt (index + b.lines.length) bs

/-- The sections of blocks, when the first line has this index. -/
def sectionsAt : (index : Nat) → List Block → List Section
  | _, [] => []
  | index, b :: bs => b.sectionAt index :: sectionsAt (index + b.lines.length) bs

theorem length_lines (b : Block) : b.lines.length = frameLines + b.content.length + 1 := by
  rw [lines, List.length_append, List.length_append]
  rfl

theorem append_lines (front : List String) (b : Block) (back : List String) :
    front ++ (b.lines ++ back) = front ++ b.frame ++ b.content ++ "" :: back := by
  simp [lines]

theorem sectionsAt_append (index : Nat) (front back : List Block) :
    sectionsAt index (front ++ back) =
      sectionsAt index front ++ sectionsAt (index + (front.flatMap lines).length) back := by
  induction front generalizing index with
  | nil => rfl
  | cons b front ih =>
    rw [List.cons_append, sectionsAt, ih, sectionsAt, List.flatMap_cons, List.length_append,
      Nat.add_assoc]
    rfl

/-! ## The scan -/

theorem ofFrame?_lines {b : Block} (h : b.IsReadable) (next : List String) :
    ofFrame? (b.lines ++ next) = some b.title := by
  show ofFrame? (separator :: b.line :: separator :: _) = _
  rw [ofFrame?, isSeparator_separator, h.title]
  rfl

/-- A frame cannot begin one line before a block: the block's title line would have to separate. -/
theorem ofFrame?_cons_lines {b : Block} (h : b.IsReadable) (line : String) (next : List String) :
    ofFrame? (line :: (b.lines ++ next)) = none := by
  show ofFrame? (line :: separator :: b.line :: _) = none
  rw [ofFrame?, isSeparator_of_ofLine?_eq_some h.title, Bool.and_false]
  rfl

/-- **The scan over one block.** -/
theorem frames_lines {b : Block} (h : b.IsReadable) (index : Nat) (next : List String) :
    frames index (b.lines ++ next) =
      (index, b.title) :: frames (index + b.lines.length) next := by
  -- behind the frame, the scan passes over the content up to the blank line, and over that
  have hrest : (b.lines ++ next).drop frameLines = b.content ++ "" :: next := by
    show b.content ++ [""] ++ next = _
    rw [List.append_assoc]
    rfl
  have hcontent : frames (index + frameLines) (b.content ++ "" :: next) =
      frames (index + frameLines + b.content.length) ("" :: next) :=
    frames_append _ (h.frameless.concat isSeparator_empty) (ofFrame?_cons_blank · next)
  rw [frames_of_found index (ofFrame?_lines h next), hrest, hcontent,
    frames_of_skipped _ (ofFrame?_blank_cons next), length_lines]
  simp only [Nat.add_assoc]

end Block

section

variable {header : List String} {blocks : List Block}

/-- **The scan over lines and the blocks behind them.** -/
theorem frames_blocks (hheader : Frameless (header ++ [separator]))
    (hblocks : ∀ b ∈ blocks, b.IsReadable) :
    frames 0 (header ++ blocks.flatMap Block.lines) = Block.framesAt header.length blocks := by
  have hscan (index : Nat) :
      frames index (blocks.flatMap Block.lines) = Block.framesAt index blocks := by
    induction blocks generalizing index with
    | nil => rfl
    | cons b blocks ih =>
      have hb := hblocks b (List.mem_cons_self ..)
      rw [List.flatMap_cons, Block.frames_lines hb,
        ih (fun c hc => hblocks c (List.mem_cons_of_mem b hc))]
      rfl
  -- of the blocks, a frame that begins in the header can only have the first line
  have hfront : Frameless (header ++ (blocks.flatMap Block.lines).take 1) := by
    cases blocks with
    | nil =>
      rw [List.flatMap_nil, List.take_nil, List.append_nil]
      exact hheader.of_append
    | cons b blocks => exact hheader
  have hseam (line : String) : ofFrame? (line :: blocks.flatMap Block.lines) = none := by
    cases blocks with
    | nil => rfl
    | cons b blocks => exact Block.ofFrame?_cons_lines (hblocks b (List.mem_cons_self ..)) line _
  rw [frames_append 0 hfront hseam, hscan, Nat.zero_add]

theorem limitOf_framesAt (front : List String) (blocks : List Block) :
    limitOf (front ++ blocks.flatMap Block.lines) (Block.framesAt front.length blocks) =
      front.length := by
  cases blocks with
  | nil => rw [List.flatMap_nil, List.append_nil]; rfl
  | cons b blocks => rfl

/-- A blank line at the end of a content is no part of it. -/
theorem contentStop_blank (front back : List String) {start : Nat} (h : start ≤ front.length) :
    contentStop (front ++ "" :: back) start (front.length + 1) = front.length := by
  have hlast : (front ++ "" :: back).getD (front.length + 1 - 1) "" = "" := by simp
  rw [contentStop, hlast, decide_eq_true (Nat.lt_succ_of_le h)]
  rfl

/-- **The sections between the frames of blocks.** Each one ends where the next block begins, but for
the blank line. -/
theorem sections_framesAt (front : List String) (blocks : List Block) :
    sections (front ++ blocks.flatMap Block.lines) (Block.framesAt front.length blocks) =
      Block.sectionsAt front.length blocks := by
  -- the first block becomes part of the lines in front
  induction blocks generalizing front with
  | nil => rfl
  | cons b blocks ih =>
    have hnext : front.length + b.lines.length = (front ++ b.lines).length :=
      List.length_append.symm
    have hcontent : (front ++ b.frame ++ b.content).length =
        front.length + frameLines + b.content.length := by
      rw [List.length_append, List.length_append]
      rfl
    have hstop : contentStop (front ++ (b.lines ++ blocks.flatMap Block.lines))
        (front.length + frameLines) (front.length + b.lines.length) =
          front.length + frameLines + b.content.length := by
      rw [Block.append_lines, Block.length_lines, ← Nat.add_assoc, ← Nat.add_assoc, ← hcontent]
      exact contentStop_blank _ _ (by omega)
    have hlimit : limitOf (front ++ (b.lines ++ blocks.flatMap Block.lines))
        (Block.framesAt (front.length + b.lines.length) blocks) =
          front.length + b.lines.length := by
      rw [← List.append_assoc, hnext, limitOf_framesAt]
    rw [List.flatMap_cons, Block.framesAt, Block.sectionsAt, sections_cons, hlimit, hstop,
      ← List.append_assoc, hnext, ih]
    rfl

theorem sectionsOf_blocks (hheader : Frameless (header ++ [separator]))
    (hblocks : ∀ b ∈ blocks, b.IsReadable) :
    sectionsOf (header ++ blocks.flatMap Block.lines) =
      Block.sectionsAt header.length blocks := by
  rw [sectionsOf, frames_blocks hheader hblocks, sections_framesAt]

theorem between_append (front lines back : List String) :
    between (front ++ lines ++ back) front.length (front.length + lines.length) = lines := by
  rw [between, ← List.length_append, List.take_left, List.drop_left]

/-- **Where the content of a block stands.** -/
theorem exists_sectionAt_of_mem (header : List String) {b : Block} (hb : b ∈ blocks) :
    ∃ index, b.sectionAt index ∈ Block.sectionsAt header.length blocks ∧
      between (header ++ blocks.flatMap Block.lines) (b.sectionAt index).start
        (b.sectionAt index).stop = b.content := by
  obtain ⟨before, behind, rfl⟩ := List.append_of_mem hb
  refine ⟨header.length + (before.flatMap Block.lines).length, ?_, ?_⟩
  · rw [Block.sectionsAt_append]
    exact List.mem_append_right _ (List.mem_cons_self ..)
  · have hstart : header.length + (before.flatMap Block.lines).length + frameLines =
        (header ++ before.flatMap Block.lines ++ b.frame).length := by
      rw [List.length_append, List.length_append]
      rfl
    rw [Block.sectionAt, hstart, List.flatMap_append, List.flatMap_cons, ← List.append_assoc,
      Block.append_lines]
    exact between_append _ b.content _

/-- **The tables of blocks.** The first block becomes part of the lines in front. -/
theorem tables_sectionsAt (front : List String) (blocks : List Block) :
    tables (front ++ blocks.flatMap Block.lines) (Block.sectionsAt front.length blocks) =
      blocks.filterMap Block.table? := by
  induction blocks generalizing front with
  | nil => rfl
  | cons b blocks ih =>
    have hcontent : between (front ++ (b.lines ++ blocks.flatMap Block.lines))
        (front.length + frameLines) (front.length + frameLines + b.content.length) =
          b.content := by
      have hstart : front.length + frameLines = (front ++ b.frame).length := by
        rw [List.length_append]
        rfl
      rw [Block.append_lines, hstart]
      exact between_append _ b.content _
    have hrest := ih (front ++ b.lines)
    rw [List.length_append, List.append_assoc] at hrest
    rw [List.flatMap_cons, Block.sectionsAt, tables, List.filterMap_cons, List.filterMap_cons,
      ← tables, hrest]
    cases htitle : b.title with
    | metadata name => simp [Block.sectionAt, Block.table?, htitle, hcontent]
    | file path => simp [Block.sectionAt, Block.table?, htitle]

theorem metadata_blocks (path : String) (modified : Nat) {text : String}
    (htexts : (Lines.ofText text).texts = header ++ blocks.flatMap Block.lines)
    (hheader : Frameless (header ++ [separator])) (hblocks : ∀ b ∈ blocks, b.IsReadable) :
    (parse path modified text).metadata = Metadata.ofSections (blocks.filterMap Block.table?) := by
  show Metadata.ofSections (tables _ (sectionsOf (Lines.ofText text).texts)) = _
  rw [htexts, sectionsOf_blocks hheader hblocks, tables_sectionsAt]

end

end Document

end CodeSnapshot

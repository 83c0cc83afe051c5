import CodeSnapshot.Proofs.Document.Listing

/-!
# Ranges — the lines of the files of a parsed snapshot

The headline **`rangesApart_parse`** holds for every text: the ranges lie inside it, no line is in two
of them, and none of them has a line that is not part of a file. So the file of a line can be looked
up, and there is one at most.

It is put together from where sections lie (`Placed`) and from which section a range comes
(`exists_section_of_range?`).
-/

namespace CodeSnapshot.Document

section

variable {path : String} {modified : Nat} {text : String}

/-! ## Sections behind ranges -/

/-- A range is the content of a section of its path. -/
theorem exists_section_of_range? {file : String} {r : FileRange}
    (h : (parse path modified text).range? file = some r) :
    ∃ s ∈ sectionsOf (Lines.ofText text).texts, s.title = .file file ∧ s.start < s.stop ∧
      s.range = r := by
  rw [range?_parse] at h
  obtain ⟨s, hs, hrange⟩ := List.mem_filterMap.1 (List.mem_of_getLast? h)
  exact ⟨s, hs, Section.rangeOf?_eq_some_iff.1 hrange⟩

theorem contains_range_iff {s : Section} {n : Nat} : s.range.contains n = true ↔ s.Holds n := by
  rw [FileRange.contains, Section.range, Bool.and_eq_true_iff]
  simp only [decide_eq_true_eq, Section.Holds]
  omega

/-- **A line is part of one file at most**, since it is part of one section at most. -/
theorem eq_of_contains {file other : String} {r r' : FileRange} {n : Nat}
    (hr : (parse path modified text).range? file = some r) (hn : r.contains n = true)
    (hr' : (parse path modified text).range? other = some r') (hn' : r'.contains n = true) :
    file = other := by
  obtain ⟨s, hs, htitle, -, rfl⟩ := exists_section_of_range? hr
  obtain ⟨s', hs', htitle', -, rfl⟩ := exists_section_of_range? hr'
  have hsame := (placed_of_mem_sectionsOf hs).title_eq (placed_of_mem_sectionsOf hs')
    (contains_range_iff.1 hn) (contains_range_iff.1 hn')
  rw [htitle, htitle'] at hsame
  exact Title.file.inj hsame

theorem length_header_le (path : String) (modified : Nat) {f : Nat × Title}
    (hf : f ∈ Title.frames 0 (Lines.ofText text).texts) :
    (parse path modified text).header.length ≤ f.1 := by
  have hpair := (Title.scanned_frames 0 (Lines.ofText text).texts).pairwise
  rw [header_parse, List.length_take]
  exact Nat.le_trans (Nat.min_le_left _ _) (limitOf_le_of_mem hpair hf)

end

/-! ## Ranges apart -/

/-- The ranges of a document, and everything that they keep apart from. Lines are counted from one. -/
structure RangesApart (d : Document) : Prop where
  /-- what is looked up is what is recorded -/
  recorded : ∀ file r, (file, r) ∈ d.ranges ↔ d.range? file = some r
  bounds : ∀ file r, d.range? file = some r → 1 ≤ r.first ∧ r.first ≤ r.last ∧ r.last ≤ d.lines.size
  disjoint : ∀ file r other r', d.range? file = some r → d.range? other = some r' → file ≠ other →
    ∀ n, ¬ (r.contains n = true ∧ r'.contains n = true)
  header : ∀ file r, d.range? file = some r → ∀ n, r.contains n = true → d.header.length < n
  /-- a frame begins behind the line of its index -/
  frame : ∀ file r, d.range? file = some r → ∀ n, r.contains n = true →
    ∀ index title, (index, title) ∈ Title.frames 0 d.lines.texts →
      ¬ (index < n ∧ n ≤ index + Title.frameLines)
  metadata : ∀ file r, d.range? file = some r → ∀ n, r.contains n = true →
    ∀ s ∈ sectionsOf d.lines.texts, ∀ name, s.title = .metadata name → ¬ s.Holds n
  /-- the file of a line -/
  fileAtLine? : ∀ n file r, d.fileAtLine? n = some (file, r) ↔
    d.range? file = some r ∧ r.contains n = true
  unique : ∀ n file r other r', d.range? file = some r → r.contains n = true →
    d.range? other = some r' → r'.contains n = true → file = other ∧ r = r'

theorem Consistent.fileAtLine?_eq_some_iff {d : Document} (h : d.Consistent) {n : Nat}
    (hunique : ∀ file r other r', d.range? file = some r → r.contains n = true →
      d.range? other = some r' → r'.contains n = true → file = other)
    {file : String} {r : FileRange} :
    d.fileAtLine? n = some (file, r) ↔ d.range? file = some r ∧ r.contains n = true := by
  rw [Document.fileAtLine?]
  constructor
  · intro hfind
    have hn := List.find?_some hfind
    exact ⟨h.mem_files_iff.1 (List.mem_of_find?_eq_some hfind), hn⟩
  · rintro ⟨hr, hn⟩
    cases hfind : d.files.find? (·.2.contains n) with
    | none =>
      exact absurd hn (List.find?_eq_none.1 hfind (file, r) (h.mem_files_iff.2 hr))
    | some e =>
      obtain ⟨other, r'⟩ := e
      have hr' := h.mem_files_iff.1 (List.mem_of_find?_eq_some hfind)
      have hn' := List.find?_some hfind
      obtain rfl := hunique file r other r' hr hn hr' hn'
      rw [Option.some.inj (hr.symm.trans hr')]

/-- **The ranges of a parsed snapshot**, whatever the text is. -/
theorem rangesApart_parse (path : String) (modified : Nat) (text : String) :
    RangesApart (parse path modified text) := by
  have h := consistent_parse path modified text
  have hsize : (Lines.ofText text).texts.length = (parse path modified text).lines.size :=
    Lines.length_texts _
  constructor
  case recorded => exact fun file r => h.mem_ranges_iff
  case bounds =>
    intro file r hr
    obtain ⟨s, hs, -, hlt, rfl⟩ := exists_section_of_range? hr
    have hstop := (placed_of_mem_sectionsOf hs).stop_le
    rw [hsize] at hstop
    exact ⟨Nat.succ_pos _, hlt, hstop⟩
  case disjoint =>
    intro file r other r' hr hr' hne n hn
    exact hne (eq_of_contains hr hn.1 hr' hn.2)
  case header =>
    intro file r hr n hn
    obtain ⟨s, hs, -, -, rfl⟩ := exists_section_of_range? hr
    obtain ⟨index, hframe, hstart⟩ := (placed_of_mem_sectionsOf hs).frame
    have hlow := (contains_range_iff.1 hn).1
    have hheader := length_header_le path modified hframe
    omega
  case frame =>
    intro file r hr n hn index title hframe hin
    obtain ⟨s, hs, -, -, rfl⟩ := exists_section_of_range? hr
    obtain ⟨hlow, hhigh⟩ := contains_range_iff.1 hn
    have := (placed_of_mem_sectionsOf hs).apart _ hframe
    omega
  case metadata =>
    intro file r hr n hn s' hs' name hname hin
    obtain ⟨s, hs, htitle, -, rfl⟩ := exists_section_of_range? hr
    have hsame := (placed_of_mem_sectionsOf hs).title_eq (placed_of_mem_sectionsOf hs')
      (contains_range_iff.1 hn) hin
    rw [htitle, hname] at hsame
    cases hsame
  case fileAtLine? =>
    exact fun n file r => h.fileAtLine?_eq_some_iff fun _ _ _ _ => eq_of_contains
  case unique =>
    intro n file r other r' hr hn hr' hn'
    obtain rfl := eq_of_contains hr hn hr' hn'
    exact ⟨rfl, Option.some.inj (hr.symm.trans hr')⟩

end CodeSnapshot.Document

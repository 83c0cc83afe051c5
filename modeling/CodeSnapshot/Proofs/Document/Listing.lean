import CodeSnapshot.Proofs.Document.Sections

/-!
# Listing — which files a parsed snapshot has

A snapshot keeps its files twice: in order, and as a map from paths to ranges. Both are built from
the sections one after the other, by rules of their own for sections that are empty and for paths
that come again.

* **`range?_parse`** — a path has the range of its last section with lines, and none if all of its
  sections are empty.
* **`Consistent`** — how order and map belong together; `consistent_parse` holds for every text. What
  is stated about `files` and lookups starts from it.
* **`count_order_parse`** — how often a path stands in the order: once for its first section with
  lines, and once more for each empty section before that one.
* **`files_once_iff`** — the headline: the files are listed once each exactly if no path has an empty
  section before its first one with lines.
-/

namespace CodeSnapshot.Document

/-! ## Sections -/

namespace Section

/-- The path, if a section holds a file. -/
def path? (s : Section) : Option String :=
  match s.title with
  | .file path => some path
  | .metadata _ => none

/-- Whether there is no line in a section. -/
def isEmpty (s : Section) : Bool :=
  s.stop ≤ s.start

/-- The lines of a section, counted from one. -/
def range (s : Section) : FileRange :=
  ⟨s.start + 1, s.stop⟩

/-- The range that a section gives to a path. -/
def rangeOf? (path : String) (s : Section) : Option FileRange :=
  if s.path? = some path ∧ s.isEmpty = false then some s.range else none

theorem rangeOf?_eq_some_iff {path : String} {s : Section} {r : FileRange} :
    s.rangeOf? path = some r ↔ s.title = .file path ∧ s.start < s.stop ∧ s.range = r := by
  have hpath : s.path? = some path ↔ s.title = .file path := by
    rw [path?]
    cases s.title <;> simp
  simp [rangeOf?, hpath, isEmpty, and_assoc]

/-- The empty sections of a path before its first section with lines. -/
def emptyFirst (path : String) (ss : List Section) : Nat :=
  ((ss.filter (·.path? = some path)).takeWhile isEmpty).length

end Section

/-- The files of some lines. -/
def listingOf (texts : List String) : Listing :=
  (sectionsOf texts).foldl Listing.add {}

/-! ## One section -/

section

variable {l : Listing} {s : Section} {path : String}

theorem add_of_path?_eq_none (h : s.path? = none) : l.add s = l := by
  rw [Section.path?] at h
  rw [Listing.add]
  split at h
  · cases h
  · rename_i htitle
    rw [htitle]

/-- **One section of a file.** The path is put in order if it has no range yet, and a section with
lines gives it a new range. -/
theorem add_of_path?_eq_some (h : s.path? = some path) :
    l.add s =
      { order := if (l.range? path).isSome then l.order else path :: l.order
        ranges := if s.isEmpty then l.ranges
          else (path, s.range) :: l.ranges.filter (·.1 != path) } := by
  rw [Section.path?] at h
  rw [Listing.add]
  split at h
  · rename_i htitle
    cases h
    simp only [htitle, Section.isEmpty, decide_eq_true_eq]
    split <;> rfl
  · cases h

theorem range?_cons_filter (path p : String) (r : FileRange) (l : Listing)
    (order : List String) :
    Listing.range? ⟨order, (p, r) :: l.ranges.filter (·.1 != p)⟩ path =
      if p = path then some r else l.range? path := by
  rw [Listing.range?, List.find?_cons]
  by_cases hp : p = path
  · rw [if_pos hp, hp, beq_self_eq_true]
    rfl
  · have hkeep : (fun e : String × FileRange => decide ((e.1 != p) = true ∧ (e.1 == path) = true)) =
        fun e => e.1 == path := by
      funext e
      by_cases he : e.1 = path
      · simp [he, Ne.symm hp]
      · simp [he]
    rw [if_neg hp, beq_false_of_ne hp, List.find?_filter, hkeep]
    rfl

theorem range?_add : (l.add s).range? path = (s.rangeOf? path).or (l.range? path) := by
  rw [Section.rangeOf?]
  cases hs : s.path? with
  | none => rw [add_of_path?_eq_none hs]; simp
  | some p =>
    rw [add_of_path?_eq_some hs]
    cases hempty : s.isEmpty with
    | true => simp [Listing.range?]
    | false =>
      simp only [Bool.false_eq_true, if_false, range?_cons_filter, Option.some.injEq, and_true]
      split <;> rfl

theorem count_order_add_of_ne (h : s.path? ≠ some path) :
    (l.add s).order.count path = l.order.count path := by
  cases hs : s.path? with
  | none => rw [add_of_path?_eq_none hs]
  | some p =>
    have hne : p ≠ path := fun hp => h (by rw [hs, hp])
    rw [add_of_path?_eq_some hs]
    show List.count path (if _ then _ else _) = _
    split
    · rfl
    · exact List.count_cons_of_ne hne

theorem nodup_ranges_add (h : (l.ranges.map (·.1)).Nodup) :
    ((l.add s).ranges.map (·.1)).Nodup := by
  cases hs : s.path? with
  | none => rwa [add_of_path?_eq_none hs]
  | some p =>
    rw [add_of_path?_eq_some hs]
    cases s.isEmpty with
    | true => exact h
    | false =>
      show (p :: (l.ranges.filter (·.1 != p)).map (·.1)).Nodup
      refine List.nodup_cons.2 ⟨fun hmem => ?_, h.sublist (List.filter_sublist.map _)⟩
      obtain ⟨e, he, rfl⟩ := List.mem_map.1 hmem
      simpa using (List.mem_filter.1 he).2

end

/-! ## All sections -/

section

variable {l : Listing} {path : String}

/-- The last section that gives a path a range decides. -/
theorem range?_foldl_add (ss : List Section) (l : Listing) (path : String) :
    (ss.foldl Listing.add l).range? path =
      (ss.filterMap (·.rangeOf? path)).getLast?.or (l.range? path) := by
  induction ss generalizing l with
  | nil => rfl
  | cons s ss ih =>
    rw [List.foldl_cons, ih, range?_add, List.filterMap_cons]
    cases s.rangeOf? path with
    | none => rfl
    | some r =>
      simp only [Option.some_or, List.getLast?_cons]
      cases (ss.filterMap (·.rangeOf? path)).getLast? <;> rfl

theorem nodup_ranges_foldl_add (ss : List Section) (h : (l.ranges.map (·.1)).Nodup) :
    ((ss.foldl Listing.add l).ranges.map (·.1)).Nodup := by
  induction ss generalizing l with
  | nil => exact h
  | cons s ss ih => exact ih (nodup_ranges_add h)

/-- Once a path has a range, it is put in order no more. -/
theorem count_order_of_isSome (ss : List Section) (h : (l.range? path).isSome) :
    (ss.foldl Listing.add l).order.count path = l.order.count path := by
  induction ss generalizing l with
  | nil => rfl
  | cons s ss ih =>
    have hnext : ((l.add s).range? path).isSome := by
      rw [range?_add, Option.isSome_or, h, Bool.or_true]
    rw [List.foldl_cons, ih hnext]
    by_cases hs : s.path? = some path
    · rw [add_of_path?_eq_some hs]
      simp only [h, if_true]
    · exact count_order_add_of_ne hs

/-- **How often a path is put in order.** Induction on the sections; the first section of the path
with lines is the last one that counts. -/
theorem count_order_foldl_add (ss : List Section) (h : l.range? path = none) :
    (ss.foldl Listing.add l).order.count path =
      l.order.count path + Section.emptyFirst path ss +
        if ((ss.foldl Listing.add l).range? path).isSome then 1 else 0 := by
  induction ss generalizing l with
  | nil => simp [Section.emptyFirst, h]
  | cons s ss ih =>
    rw [List.foldl_cons, Section.emptyFirst, List.filter_cons]
    by_cases hs : s.path? = some path
    -- the path has no range yet, so every section of it puts the path in order
    · have horder : (l.add s).order = path :: l.order := by
        rw [add_of_path?_eq_some hs, h]
        rfl
      rw [if_pos (by simpa using hs)]
      cases hempty : s.isEmpty with
      | true =>
        have hrange : (l.add s).range? path = none := by
          rw [range?_add, Section.rangeOf?, hempty, h]
          simp
        rw [ih hrange, horder, List.count_cons_self, List.takeWhile_cons_of_pos hempty,
          List.length_cons, Section.emptyFirst]
        omega
      | false =>
        have hrange : ((l.add s).range? path).isSome := by
          rw [range?_add, Section.rangeOf?, if_pos ⟨hs, hempty⟩]
          rfl
        -- a range is never taken away again
        have hlast : ((ss.foldl Listing.add (l.add s)).range? path).isSome := by
          rw [range?_foldl_add, Option.isSome_or, hrange, Bool.or_true]
        rw [count_order_of_isSome ss hrange, horder, List.count_cons_self, if_pos hlast,
          List.takeWhile_cons_of_neg (by simp [hempty])]
        rfl
    · have hrange : (l.add s).range? path = none := by
        rw [range?_add, Section.rangeOf?, if_neg (fun hfile => hs hfile.1), h]
        rfl
      rw [if_neg (by simpa using hs), ih hrange, count_order_add_of_ne hs]
      rfl

/-- Paths that come once each are put in order as they come, with lines or without. -/
theorem order_foldl_add {ss : List Section} (hnodup : (ss.filterMap Section.path?).Nodup)
    (hnew : ∀ file ∈ ss.filterMap Section.path?, l.range? file = none) :
    (ss.foldl Listing.add l).order = (ss.filterMap Section.path?).reverse ++ l.order := by
  induction ss generalizing l with
  | nil => rfl
  | cons s ss ih =>
    cases hs : s.path? with
    | none =>
      rw [List.filterMap_cons_none hs] at hnodup hnew ⊢
      rw [List.foldl_cons, add_of_path?_eq_none hs, ih hnodup hnew]
    | some file =>
      rw [List.filterMap_cons_some hs] at hnodup hnew ⊢
      obtain ⟨hfile, hnodup⟩ := List.nodup_cons.1 hnodup
      have hrest : ∀ other ∈ ss.filterMap Section.path?, (l.add s).range? other = none := by
        intro other hother
        have hne : file ≠ other := fun heq => hfile (heq ▸ hother)
        rw [range?_add, Section.rangeOf?, hs, hnew other (List.mem_cons_of_mem file hother)]
        simp [hne]
      have horder : (l.add s).order = file :: l.order := by
        rw [add_of_path?_eq_some hs, hnew file (List.mem_cons_self ..)]
        rfl
      rw [List.foldl_cons, ih hnodup hrest, horder, List.reverse_cons, List.append_assoc]
      rfl

theorem filterMap_rangeOf?_of_mem {ss : List Section} (hnodup : (ss.filterMap Section.path?).Nodup)
    {s : Section} (hs : s ∈ ss) (hpath : s.path? = some path) :
    ss.filterMap (·.rangeOf? path) = (s.rangeOf? path).toList := by
  -- no section but `s` has this path, and so no other one has a range for it
  induction ss with
  | nil => cases hs
  | cons t ss ih =>
    have hrest : (ss.filterMap Section.path?).Nodup :=
      hnodup.sublist ((List.sublist_cons_self t ss).filterMap _)
    rcases List.mem_cons.1 hs with rfl | hs
    · rw [List.filterMap_cons_some hpath] at hnodup
      have hnone : ss.filterMap (·.rangeOf? path) = [] := by
        refine List.filterMap_eq_nil_iff.2 fun t ht => if_neg fun hboth => ?_
        exact (List.nodup_cons.1 hnodup).1 (List.mem_filterMap.2 ⟨t, ht, hboth.1⟩)
      rw [List.filterMap_cons, hnone]
      cases s.rangeOf? path <;> rfl
    · have hnone : t.rangeOf? path = none := by
        refine if_neg fun hboth => ?_
        rw [List.filterMap_cons_some hboth.1] at hnodup
        exact (List.nodup_cons.1 hnodup).1 (List.mem_filterMap.2 ⟨s, hs, hpath⟩)
      rw [List.filterMap_cons_none hnone, ih hrest hs]

end

/-! ## Parsed snapshots -/

/-- The two records of the files belong together. -/
structure Consistent (d : Document) : Prop where
  nodup_ranges : (d.ranges.map (·.1)).Nodup
  mem_order_iff : ∀ path, path ∈ d.order ↔ (d.range? path).isSome

section

variable (path : String) (modified : Nat) (text : String)

theorem range?_listingOf (texts : List String) (file : String) :
    (listingOf texts).range? file =
      ((sectionsOf texts).filterMap (·.rangeOf? file)).getLast? := by
  rw [listingOf, range?_foldl_add, show Listing.range? {} file = none from rfl, Option.or_none]

theorem range?_parse (file : String) :
    (parse path modified text).range? file =
      ((sectionsOf (Lines.ofText text).texts).filterMap (·.rangeOf? file)).getLast? :=
  range?_listingOf (Lines.ofText text).texts file

theorem order_parse :
    (parse path modified text).order =
      ((listingOf (Lines.ofText text).texts).order.filter fun file =>
        ((listingOf (Lines.ofText text).texts).range? file).isSome).reverse := by
  simp only [parse, listingOf, sectionsOf]

/-- **How often a file is listed.** -/
theorem count_order_parse (file : String) :
    (parse path modified text).order.count file =
      if ((parse path modified text).range? file).isSome then
        Section.emptyFirst file (sectionsOf (Lines.ofText text).texts) + 1
      else 0 := by
  have hnone : Listing.range? {} file = none := rfl
  have hcount := count_order_foldl_add (sectionsOf (Lines.ofText text).texts) hnone
  rw [← listingOf, range?_listingOf, ← range?_parse path modified text] at hcount
  rw [order_parse, List.count_reverse]
  split
  · rename_i hsome
    have hlisted : ((listingOf (Lines.ofText text).texts).range? file).isSome := hsome
    rw [List.count_filter (p := fun p => ((listingOf (Lines.ofText text).texts).range? p).isSome)
      hlisted, hcount, if_pos hsome]
    simp
  · rename_i hnone
    exact List.count_eq_zero.2 fun hmem => hnone (List.mem_filter.1 hmem).2

theorem consistent_parse : (parse path modified text).Consistent where
  nodup_ranges := nodup_ranges_foldl_add _ .nil
  mem_order_iff file := by
    rw [← List.count_pos_iff, count_order_parse]
    split <;> simp_all

end

namespace Consistent

variable {d : Document}

theorem mem_files_iff (h : d.Consistent) {path : String} {r : FileRange} :
    (path, r) ∈ d.files ↔ d.range? path = some r := by
  rw [files, List.mem_filterMap]
  constructor
  · rintro ⟨p, -, hp⟩
    obtain ⟨r', hr, heq⟩ := Option.map_eq_some_iff.1 hp
    cases heq
    exact hr
  · intro hr
    exact ⟨path, (h.mem_order_iff path).2 (by rw [hr]; rfl), by rw [hr]; rfl⟩

/-- What is looked up is what is recorded, for a path is recorded once. -/
theorem mem_ranges_iff (h : d.Consistent) {path : String} {r : FileRange} :
    (path, r) ∈ d.ranges ↔ d.range? path = some r := by
  have hnodup := h.nodup_ranges
  rw [range?, Option.map_eq_some_iff]
  generalize d.ranges = entries at hnodup
  constructor
  · intro hmem
    refine ⟨(path, r), ?_, rfl⟩
    induction entries with
    | nil => cases hmem
    | cons e entries ih =>
      obtain ⟨hnot, hnodup⟩ := List.nodup_cons.1 hnodup
      rcases List.mem_cons.1 hmem with rfl | hmem
      · simp
      · have hne : e.1 ≠ path := by
          rintro rfl
          exact hnot (List.mem_map.2 ⟨_, hmem, rfl⟩)
        rw [List.find?_cons, beq_false_of_ne hne]
        exact ih hnodup hmem
  · rintro ⟨e, hfind, rfl⟩
    have hkey := List.find?_some hfind
    rw [← beq_iff_eq.1 hkey]
    exact List.mem_of_find?_eq_some hfind

theorem map_files (h : d.Consistent) : d.files.map (·.1) = d.order := by
  have hall : ∀ path ∈ d.order,
      ((d.range? path).map (path, ·)).map (·.1) = some path := by
    intro path hmem
    obtain ⟨r, hr⟩ := Option.isSome_iff_exists.1 ((h.mem_order_iff path).1 hmem)
    rw [hr]
    rfl
  rw [files, List.map_filterMap]
  generalize d.order = order at hall
  induction order with
  | nil => rfl
  | cons path order ih =>
    rw [List.filterMap_cons, hall path (List.mem_cons_self ..)]
    exact congrArg (path :: ·) (ih fun p hp => hall p (List.mem_cons_of_mem _ hp))

/-- Files that are listed once each are as many as have a range. -/
theorem length_files (h : d.Consistent) (hnodup : (d.files.map (·.1)).Nodup) :
    (d.files.map (·.1)).length = d.fileCount := by
  -- neither list has a path twice, and they have the same paths
  have hperm : (d.files.map (·.1)).Perm (d.ranges.map (·.1)) := by
    refine (List.perm_ext_iff_of_nodup hnodup h.nodup_ranges).2 fun path => ?_
    rw [h.map_files, h.mem_order_iff]
    simp [range?, List.find?_isSome]
  rw [hperm.length_eq, List.length_map]
  rfl

/-- Files that stand in the order once more than some number are listed once each if and only if
this number is zero for all of them. -/
theorem nodup_files_iff (h : d.Consistent) {extra : String → Nat}
    (hcount : ∀ file, (d.range? file).isSome → d.order.count file = extra file + 1) :
    (d.files.map (·.1)).Nodup ↔ ∀ file, (d.range? file).isSome → extra file = 0 := by
  rw [h.map_files, List.nodup_iff_count]
  constructor
  · intro hone file hsome
    have hfile := hone file
    rw [hcount file hsome] at hfile
    omega
  · intro hzero file
    by_cases hsome : (d.range? file).isSome
    · have hone := hcount file hsome
      rw [hzero file hsome] at hone
      exact Nat.le_of_eq hone
    · rw [List.count_eq_zero.2 fun hmem => hsome ((h.mem_order_iff file).1 hmem)]
      exact Nat.zero_le 1

end Consistent

/-- **How the files of a text are listed.** Exactly the paths with a range are listed, each once more
than it has empty sections before its first section with lines. So the files are listed once each,
and are as many as the figures tell, exactly if no path with a range has such a section. -/
theorem files_once_iff (path : String) (modified : Nat) (text : String) :
    let d := parse path modified text
    let names := d.files.map (·.1)
    let emptyFirst := fun file => Section.emptyFirst file (sectionsOf (Lines.ofText text).texts)
    (∀ file, file ∈ names ↔ (d.range? file).isSome) ∧
      (∀ file, (d.range? file).isSome → names.count file = emptyFirst file + 1) ∧
      d.stats.files = d.fileCount ∧
      ((names.Nodup ∧ names.length = d.fileCount) ↔
        ∀ file, (d.range? file).isSome → emptyFirst file = 0) := by
  have h := consistent_parse path modified text
  have hcount := count_order_parse path modified text
  generalize parse path modified text = d at h hcount
  have hcount (file : String) (hsome : (d.range? file).isSome) := (hcount file).trans (if_pos hsome)
  have hnodup := h.nodup_files_iff hcount
  refine ⟨fun file => ?_, fun file hsome => ?_, rfl, fun hboth => hnodup.1 hboth.1, fun hzero => ?_⟩
  · rw [h.map_files]
    exact h.mem_order_iff file
  · rw [h.map_files]
    exact hcount file hsome
  · exact ⟨hnodup.2 hzero, h.length_files (hnodup.2 hzero)⟩

/-- A file whose first section is empty and whose second one has a line is listed twice. -/
theorem files_of_empty_first :
    let d := parse "snapshot.txt" 0
      ("====================\nFILE: ./a.ts\n====================\n\n" ++
        "====================\nFILE: ./a.ts\n====================\nx\n\n")
    d.files = [("a.ts", ⟨8, 8⟩), ("a.ts", ⟨8, 8⟩)] ∧ d.stats.files = 1 ∧
      ¬ (d.files.map (·.1)).Nodup := by
  decide +kernel

end CodeSnapshot.Document

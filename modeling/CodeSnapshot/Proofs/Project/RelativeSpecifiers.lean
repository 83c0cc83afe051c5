import CodeSnapshot.Project.SourceFile
import CodeSnapshot.Proofs.Path.JoinedPaths
import Mathlib.Data.List.TakeWhile

/-!
# Relative specifiers — how a file is imported from anywhere

A specifier that climbs from the directory of one file and goes down to another file stands for that
file; one that leads to a directory stands for its index file. The root of a snapshot is the one
directory whose index file cannot be named in this way, since a suffix of the empty path is no path
of a file.

* **`IsPlain`** — the paths that consist of proper segments; `pathOf`, `segments` and `directory`
  put them together and take them apart.
* **`climb`**, **`specifier`** — the relative specifier from a directory to a file or a directory.
* **`foldlM_climb`** — what following a specifier does to the segments of a directory, and
  **`join?_climb`** — the path that comes of it.
* **`resolves_relative`** — the headline; `not_resolves_root_index` is the case of the root.
-/

namespace CodeSnapshot

open Text

/-! ## Segments -/

namespace Path

/-- A segment that names an entry of its directory. -/
structure IsSegment (segment : List Char) : Prop where
  nonempty : segment ≠ []
  notHere : segment ≠ ['.']
  notAbove : segment ≠ ['.', '.']
  noSlash : '/' ∉ segment

/-- The segments of the directory that a file is in. -/
def directory (file : String) : List (List Char) :=
  (segments file).dropLast

/-- A path all of whose segments name entries. -/
def IsPlain (path : String) : Prop :=
  ∀ segment ∈ segments path, segment ≠ [] ∧ segment ≠ ['.'] ∧ segment ≠ ['.', '.']

instance (path : String) : Decidable (IsPlain path) :=
  inferInstanceAs (Decidable (∀ segment ∈ segments path, _))

variable {path : String} {above below names : List (List Char)} {segment : List Char}

theorem IsPlain.isSegment (h : IsPlain path) : ∀ segment ∈ segments path, IsSegment segment := by
  intro segment hsegment
  obtain ⟨hnonempty, hhere, habove⟩ := h segment hsegment
  exact ⟨hnonempty, hhere, habove, not_mem_of_mem_splitAt hsegment⟩

/-- The segments of a file are those of its directory and its name. -/
theorem exists_name (file : String) : ∃ name, segments file = directory file ++ [name] :=
  ⟨_, (List.dropLast_concat_getLast (splitAt_ne_nil '/' file.toList)).symm⟩

theorem joinWith_concat (hne : names ≠ []) (name : List Char) :
    joinWith ['/'] (names ++ [name]) = joinWith ['/'] names ++ '/' :: name := by
  induction names with
  | nil => exact absurd rfl hne
  | cons first names ih =>
    cases names with
    | nil => simp [joinWith]
    | cons next names =>
      have ih := ih (List.cons_ne_nil next names)
      rw [List.cons_append] at ih
      show first ++ ['/'] ++ joinWith ['/'] (next :: (names ++ [name])) = _
      rw [ih]
      simp [joinWith]

/-- What precedes the last segment is the directory. -/
theorem parentChars_joinWith (names : List (List Char)) {name : List Char} (h : '/' ∉ name) :
    parentChars (joinWith ['/'] (names ++ [name])) = joinWith ['/'] names := by
  have hstop : ∀ c ∈ name.reverse, (! isSlash c) = true := by
    intro c hc
    have hne : c ≠ '/' := by
      rintro rfl
      exact h (List.mem_reverse.1 hc)
    simp [isSlash, hne]
  by_cases hnames : names = []
  · subst hnames
    show ((name.reverse.dropWhile (! isSlash ·)).drop 1).reverse = []
    rw [List.dropWhile_eq_nil_iff.2 hstop]
    rfl
  · rw [joinWith_concat hnames, parentChars, List.reverse_append, List.reverse_cons,
      List.append_assoc, List.dropWhile_append_of_pos hstop]
    show ((('/' :: (joinWith ['/'] names).reverse).dropWhile _).drop 1).reverse = _
    rw [List.dropWhile_cons_of_neg (by decide)]
    simp

theorem parent_eq (file : String) : parent file = pathOf (directory file) := by
  obtain ⟨name, hname⟩ := exists_name file
  have hslash : '/' ∉ name :=
    not_mem_of_mem_splitAt (hname ▸ List.mem_append_right _ (List.mem_singleton_self name))
  rw [parent, pathOf, ← parentChars_joinWith (directory file) hslash, ← hname, segments,
    joinWith_splitAt]

/-! ## Following segments -/

theorem IsSegment.isKept (h : IsSegment segment) : IsKept segment :=
  ⟨isIdle_eq_false_iff.2 ⟨h.nonempty, h.notHere⟩, h.noSlash⟩

theorem step?_of_isSegment (h : IsSegment segment) (stack : List (List Char)) :
    step? stack segment = some (segment :: stack) :=
  step?_of_isDown (isDown_iff.2 ⟨h.isKept.notIdle, h.notAbove⟩)

theorem foldlM_names (h : ∀ segment ∈ names, IsSegment segment) (stack : List (List Char)) :
    names.foldlM step? stack = some (names.reverse ++ stack) := by
  induction names generalizing stack with
  | nil => rfl
  | cons segment names ih =>
    obtain ⟨hsegment, hnames⟩ := List.forall_mem_cons.1 h
    rw [List.foldlM_cons, step?_of_isSegment hsegment]
    show names.foldlM step? (segment :: stack) = _
    rw [ih hnames, List.reverse_cons, List.append_assoc]
    rfl

/-- Each step up leaves one directory. -/
theorem foldlM_up (left stack : List (List Char)) :
    (List.replicate left.length ['.', '.']).foldlM step? (left ++ stack) = some stack := by
  induction left with
  | nil => rfl
  | cons segment left ih =>
    rw [List.length_cons, List.replicate_succ, List.foldlM_cons]
    exact ih

/-! ## Relative specifiers -/

/-- The segments of a specifier that climbs some levels, or stays where it is, and goes down from
there. -/
def climbSegments (levels : Nat) (below : List (List Char)) : List (List Char) :=
  (if levels = 0 then [['.']] else List.replicate levels ['.', '.']) ++ below

/-- The specifier that climbs some levels and goes down from there: `.`, `./d`, `..`, `../d`,
`../..` and so on. -/
def climb (levels : Nat) (below : List (List Char)) : String :=
  pathOf (climbSegments levels below)

/-- The relative specifier from a directory to a file or to a directory. It climbs no higher than it
has to. -/
def specifier : (source target : List (List Char)) → String
  | here :: source, there :: target =>
    if here = there then specifier source target
    else climb (source.length + 1) (there :: target)
  | source, target => climb source.length target

theorem exists_specifier (source target : List (List Char)) :
    ∃ common left below, source = common ++ left ∧ target = common ++ below ∧
      specifier source target = climb left.length below := by
  fun_induction specifier source target with
  | case1 source there target ih =>
    obtain ⟨common, left, below, rfl, rfl, hspecifier⟩ := ih
    exact ⟨there :: common, left, below, rfl, rfl, hspecifier⟩
  | case2 here source there target hne => exact ⟨[], here :: source, there :: target, rfl, rfl, rfl⟩
  | case3 source target => exact ⟨[], source, target, rfl, rfl, rfl⟩

theorem exists_climbSegments (levels : Nat) (below : List (List Char)) :
    ∃ first rest, climbSegments levels below = first :: rest ∧
      (first = ['.'] ∨ first = ['.', '.']) := by
  cases levels with
  | zero => exact ⟨['.'], below, rfl, .inl rfl⟩
  | succ levels => exact ⟨['.', '.'], List.replicate levels ['.', '.'] ++ below, rfl, .inr rfl⟩

theorem splitAt_climb (levels : Nat) (h : ∀ segment ∈ below, IsSegment segment) :
    splitAt '/' (climb levels below).toList = climbSegments levels below := by
  rw [climb, pathOf, String.toList_ofList]
  obtain ⟨first, rest, hsegments, -⟩ := exists_climbSegments levels below
  have hne : climbSegments levels below ≠ [] := hsegments ▸ List.cons_ne_nil first rest
  refine splitAt_joinWith hne fun piece hpiece => ?_
  rcases List.mem_append.1 hpiece with hup | hbelow
  · split at hup
    · obtain rfl := List.mem_singleton.1 hup
      decide
    · obtain rfl := List.eq_of_mem_replicate hup
      decide
  · exact (h piece hbelow).noSlash

/-- **Following a specifier** leaves as many directories as it climbs, and enters those below. -/
theorem foldlM_climb (left above : List (List Char)) (h : ∀ segment ∈ below, IsSegment segment) :
    (climbSegments left.length below).foldlM step? (left ++ above) =
      some (below.reverse ++ above) := by
  rw [climbSegments, List.foldlM_append]
  cases left with
  | nil => exact foldlM_names h above
  | cons segment left =>
    rw [if_neg (by simp), foldlM_up]
    exact foldlM_names h above

/-- **The path that a specifier names**, from a directory that is long enough. -/
theorem join?_climb {common left : List (List Char)}
    (hdirectory : ∀ segment ∈ common ++ left, IsSegment segment)
    (h : ∀ segment ∈ below, IsSegment segment) :
    join? (pathOf (common ++ left)) (climb left.length below) =
      some (pathOf (common ++ below)) := by
  have hfollow := foldlM_climb left.reverse common.reverse h
  rw [List.length_reverse] at hfollow
  rw [join?, joinChars?, splitAt_climb _ h, pathOf, String.toList_ofList,
    stackOf_joinWith fun segment hsegment => (hdirectory segment hsegment).isKept,
    List.reverse_append, hfollow]
  show some (String.ofList (joinWith ['/'] (below.reverse ++ common.reverse).reverse)) = _
  rw [List.reverse_append, List.reverse_reverse, List.reverse_reverse]
  rfl

theorem join?_specifier {source target : List (List Char)}
    (hsource : ∀ segment ∈ source, IsSegment segment)
    (htarget : ∀ segment ∈ target, IsSegment segment) :
    join? (pathOf source) (specifier source target) = some (pathOf target) := by
  obtain ⟨common, left, below, rfl, rfl, hspecifier⟩ := exists_specifier source target
  rw [hspecifier]
  exact join?_climb hsource fun segment hsegment =>
    htarget segment (List.mem_append_right common hsegment)

end Path

/-! ## Resolving -/

namespace SourceFile

open CodeSnapshot.Path

/-- The names of the files that stand for their directory. -/
def indexNames : List String :=
  ["index.ts", "index.tsx", "index.js", "index.jsx"]

/-- What is tried before the index file of a directory. -/
def suffixesBefore (name : String) : List String :=
  suffixes.takeWhile (· != "/" ++ name)

variable {known : String → Bool} {importer file name : String} {names : List (List Char)}

theorem isRelative_climb (levels : Nat) (below : List (List Char)) :
    isRelative (climb levels below) = true := by
  obtain ⟨first, rest, hsegments, hfirst⟩ := exists_climbSegments levels below
  rw [climb, hsegments]
  cases rest with
  | nil =>
    rcases hfirst with rfl | rfl
    · decide
    · decide
  | cons next rest =>
    rcases hfirst with rfl | rfl
    · simp [isRelative, pathOf, joinWith]
    · simp [isRelative, pathOf, joinWith]

/-- A relative specifier stands for the first known candidate of the path that it leads to. -/
theorem resolve?_specifier (himporter : IsPlain importer)
    (hnames : ∀ segment ∈ names, IsSegment segment) :
    resolve? known importer (specifier (directory importer) names) =
      (candidates (pathOf names)).find? known := by
  have hrelative : isRelative (specifier (directory importer) names) = true := by
    obtain ⟨common, left, below, -, -, hspecifier⟩ := exists_specifier (directory importer) names
    rw [hspecifier]
    exact isRelative_climb left.length below
  have hdirectory : ∀ segment ∈ directory importer, IsSegment segment := fun segment hsegment =>
    himporter.isSegment segment ((List.dropLast_sublist _).subset hsegment)
  rw [resolve?, if_pos hrelative, parent_eq, join?_specifier hdirectory hnames]
  rfl

theorem find?_of_takeWhile {α : Type} [BEq α] [LawfulBEq α] {p : α → Bool} {a : α} {as : List α}
    (ha : a ∈ as) (hp : p a = true) (h : ∀ b ∈ as.takeWhile (· != a), p b = false) :
    as.find? p = some a := by
  induction as with
  | nil => exact absurd ha List.not_mem_nil
  | cons b as ih =>
    by_cases hb : b = a
    · rw [hb, List.find?_cons_of_pos hp]
    · have hne : (b != a) = true := by simpa using hb
      have htake : (b :: as).takeWhile (· != a) = b :: as.takeWhile (· != a) :=
        List.takeWhile_cons_of_pos hne
      rw [htake] at h
      obtain ⟨hpb, h⟩ := List.forall_mem_cons.1 h
      rw [List.find?_cons_of_neg (by simp [hpb])]
      exact ih ((List.mem_cons.1 ha).resolve_left (Ne.symm hb)) h

theorem find?_candidates {base suffix : String} (hsuffix : suffix ∈ suffixes)
    (hknown : known (base ++ suffix) = true)
    (h : ∀ earlier ∈ suffixes.takeWhile (· != suffix), known (base ++ earlier) = false) :
    (candidates base).find? known = some (base ++ suffix) := by
  have hfind : suffixes.find? (known ∘ (base ++ ·)) = some suffix :=
    find?_of_takeWhile hsuffix hknown h
  rw [candidates, List.find?_append, List.find?_map, hfind]
  rfl

theorem pathOf_concat (hne : names ≠ []) (segment : List Char) :
    pathOf (names ++ [segment]) = pathOf names ++ ("/" ++ String.ofList segment) := by
  apply String.toList_inj.1
  simp [pathOf, joinWith_concat hne]

/-- **An index file stands for its directory**, if nothing that is tried before it is known. -/
theorem find?_candidates_index (hname : name ∈ indexNames) (hne : names ≠ [])
    (hsegments : segments file = names ++ [name.toList]) (hknown : known file = true)
    (h : ∀ suffix ∈ suffixesBefore name, known (pathOf names ++ suffix) = false) :
    (candidates (pathOf names)).find? known = some file := by
  have hfile : file = pathOf names ++ ("/" ++ name) := by
    rw [← pathOf_segments file, hsegments, pathOf_concat hne, String.ofList_toList]
  have hsuffix : ∀ name ∈ indexNames, "/" ++ name ∈ suffixes := by decide
  rw [hfile] at hknown ⊢
  exact find?_candidates (hsuffix name hname) hknown h

theorem not_isPlain_of_slash {path : String} (h : path.toList.head? = some '/') :
    ¬ IsPlain path := by
  intro hplain
  obtain ⟨rest, hrest⟩ := List.head?_eq_some_iff.1 h
  have hempty : [] ∈ segments path := by
    rw [segments, hrest, splitAt_cons_self]
    exact List.mem_cons_self
  exact (hplain [] hempty).1 rfl

/-- At the root, what is tried last begins with a slash, and no file is named so. -/
theorem find?_candidates_root (hplain : ∀ file, known file = true → IsPlain file)
    (hname : name ∈ indexNames) (h : ∀ suffix ∈ suffixesBefore name, known suffix = false) :
    (candidates "").find? known = none := by
  have hlate : ∀ name ∈ indexNames, ∀ suffix ∈ suffixes,
      suffix ∈ suffixesBefore name ∨ suffix.toList.head? = some '/' := by decide
  have hcandidates : candidates "" = suffixes := by decide
  rw [hcandidates, List.find?_eq_none]
  intro suffix hsuffix hknown
  rcases hlate name hname suffix hsuffix with hbefore | hslash
  · rw [h suffix hbefore] at hknown
    exact Bool.false_ne_true hknown
  · exact not_isPlain_of_slash hslash (hplain suffix hknown)

/-- **Every known file can be imported from every other.** The relative specifier that leads from
the directory of an importing file to a known file stands for that file. If it is an index file, so
does the one that leads to its directory, unless something is known that is tried before it; but
there is none that stands for the index file of the root. -/
theorem resolves_relative (hplain : ∀ file, known file = true → IsPlain file)
    (himporter : IsPlain importer) (hknown : known file = true) :
    resolve? known importer (specifier (directory importer) (segments file)) = some file ∧
    ∀ name ∈ indexNames, ∀ names, segments file = names ++ [name.toList] →
      (∀ suffix ∈ suffixesBefore name, known (pathOf names ++ suffix) = false) →
      resolve? known importer (specifier (directory importer) names) =
        if names = [] then none else some file := by
  have hfile : ∀ segment ∈ segments file, IsSegment segment := (hplain file hknown).isSegment
  constructor
  · have hempty : file ++ "" = file := String.append_empty
    have hfirst : (candidates file).find? known = some (file ++ "") :=
      find?_candidates (by decide) (by rwa [hempty]) nofun
    rw [resolve?_specifier himporter hfile, pathOf_segments, hfirst, hempty]
  · intro name hname names hsegments hbefore
    have hnames : ∀ segment ∈ names, IsSegment segment := fun segment hsegment =>
      hfile segment (hsegments ▸ List.mem_append_left _ hsegment)
    rw [resolve?_specifier himporter hnames]
    by_cases hne : names = []
    · subst hne
      rw [if_pos rfl]
      refine find?_candidates_root hplain hname fun suffix hsuffix => ?_
      have h := hbefore suffix hsuffix
      rwa [show pathOf [] = "" from rfl, String.empty_append] at h
    · rw [if_neg hne]
      exact find?_candidates_index hname hne hsegments hknown hbefore

/-- From a nested directory to a file in another branch, and to an index file by its directory. -/
theorem resolves_relative_across_branches :
    (∀ file, ["src/app/a.ts", "src/lib/index.ts"].contains file = true → IsPlain file) ∧
    resolve? (["src/app/a.ts", "src/lib/index.ts"].contains ·) "src/app/a.ts"
      "../lib/index.ts" = some "src/lib/index.ts" ∧
    resolve? (["src/app/a.ts", "src/lib/index.ts"].contains ·) "src/app/a.ts" "../lib" =
      some "src/lib/index.ts" := by
  have hplain : ∀ file, ["src/app/a.ts", "src/lib/index.ts"].contains file = true →
      IsPlain file := by
    intro file hfile
    have hmem : ∀ file ∈ ["src/app/a.ts", "src/lib/index.ts"], IsPlain file := by decide
    exact hmem file (List.contains_iff_mem.1 hfile)
  have h := @resolves_relative _ "src/app/a.ts" "src/lib/index.ts" hplain (by decide) (by decide)
  have hindex := h.2 "index.ts" (by decide) ["src".toList, "lib".toList] (by decide) (by decide)
  exact ⟨hplain, h.1, hindex⟩

/-- The index file of the root is not found by the specifier of the root. -/
theorem not_resolves_root_index :
    (∀ file ∈ ["a.ts", "index.ts"], IsPlain file) ∧
    segments "index.ts" = [] ++ ["index.ts".toList] ∧
    (∀ suffix ∈ suffixesBefore "index.ts",
      ["a.ts", "index.ts"].contains (pathOf [] ++ suffix) = false) ∧
    specifier (directory "a.ts") [] = "." ∧
    resolve? (["a.ts", "index.ts"].contains ·) "a.ts" "." = none := by
  decide

end SourceFile

end CodeSnapshot

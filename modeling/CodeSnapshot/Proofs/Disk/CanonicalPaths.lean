import CodeSnapshot.Disk.Basic
import CodeSnapshot.Proofs.Text.Splits

/-!
# Canonical paths — a canonical path leads to where it was found

A file is known by its canonical path, and is read by it. That is right only if the canonical path,
taken as a location, leads to the same place again.

* **`Settled`** — a place that is reached through directories only, none of them by a link.
* **`Settled.walk`** — all walks end at settled places; `Settled.walk_names` goes to such a place by its
  own names.
* **`canonical?_of_canonical?`** — the headline: a canonical path is its own canonical path. A link may
  have a target with a NUL, which no location has; such a path is no location, and is left out.
* **`modified?_eq_some_iff`**, **`read?_eq_ok_iff`** — what is asked about a file by its canonical path is
  about the file that is there; `exists_modified?_of_canonical?` says that something is there.
-/

namespace CodeSnapshot

theorem Location.not_mem_of_mem_segments {path segment : String} (h : segment ∈ segments path) :
    '/' ∉ segment.toList := by
  obtain ⟨piece, hpiece, rfl⟩ := List.mem_map.1 h
  rw [String.toList_ofList]
  exact Text.not_mem_of_mem_splitAt hpiece

namespace Disk

variable {d : Disk}

/-! ## Places -/

/-- A name that a directory's entry can have. -/
structure IsName (name : String) : Prop where
  nonempty : name ≠ ""
  notHere : name ≠ "."
  notAbove : name ≠ ".."
  noSlash : '/' ∉ name.toList
  short : name.utf8ByteSize ≤ nameLimit

/-- A place, by its names, innermost first: every name is that of an entry of the directory before
it, and none of them is a link. -/
inductive Settled (d : Disk) : List String → Prop where
  | root : Settled d []
  | entry (name : String) (names : List String) (node : Node) (inside : Settled d names)
      (directory : d.nodeAt? names = some .directory) (isName : IsName name)
      (found : d.nodeAt? (name :: names) = some node) (noLink : ∀ target, node ≠ .link target) :
      Settled d (name :: names)

namespace Settled

variable {fuel links : Nat} {names front rest segments stop : List String}

theorem of_append (h : Settled d (front ++ names)) : Settled d names := by
  induction front with
  | nil => exact h
  | cons name front ih =>
    cases h with
    | entry _ _ node inside directory isName found noLink => exact ih inside

theorem noSlash (h : Settled d names) : ∀ name ∈ names, '/' ∉ name.toList := by
  induction h with
  | root => exact nofun
  | entry name names node inside directory isName found noLink ih =>
    exact List.forall_mem_cons.2 ⟨isName.noSlash, ih⟩

/-- **Every walk** from a settled place ends at one. -/
theorem walk (hs : Settled d names) (hsegments : ∀ s ∈ segments, '/' ∉ s.toList)
    (h : d.walk fuel links names segments = .ok stop) : Settled d stop := by
  fun_induction Disk.walk d fuel links names segments with
  | case1 => exact Except.ok.inj h ▸ hs
  | case2 => cases h
  | case3 => cases h
  | case4 fuel links names segment rest _ _ ih =>
    exact ih hs (List.forall_mem_cons.1 hsegments).2 h
  | case5 fuel links names rest _ _ ih =>
    -- one step up; the root is above itself
    have hup : Settled d (names.drop 1) := by
      rw [← List.take_append_drop 1 names] at hs
      exact hs.of_append
    exact ih hup (List.forall_mem_cons.1 hsegments).2 h
  | case6 => cases h
  | case7 => cases h
  | case8 => cases h
  | case9 fuel links names segment rest hdirectory hhere habove hlong target hlink hlinks ih =>
    -- the target of a link is a location like any other
    refine ih ?_ (fun s hs => ?_) h
    · split
      · exact .root
      · exact hs
    · rcases List.mem_append.1 hs with hs | hs
      · exact Location.not_mem_of_mem_segments hs
      · exact hsegments s (List.mem_cons_of_mem segment hs)
  | case10 fuel links names segment rest hdirectory hhere habove hlong node hnolink hfound ih =>
    obtain ⟨hsegment, hrest⟩ := List.forall_mem_cons.1 hsegments
    simp only [Bool.or_eq_true, decide_eq_true_eq, not_or] at hhere
    have hname : IsName segment := ⟨hhere.1, hhere.2, habove, hsegment, Nat.not_lt.1 hlong⟩
    have hdirectory : d.nodeAt? names = some .directory := by simpa using hdirectory
    exact ih (.entry segment names node hs hdirectory hname hfound hnolink) hrest h

/-- **One step** into a settled place, from the directory that it is in. -/
theorem walk_cons {name : String} (h : Settled d (name :: names)) :
    d.walk (fuel + 1) links names (name :: rest) = d.walk fuel links (name :: names) rest := by
  cases h with
  | entry _ _ node inside directory isName found noLink =>
    rw [Disk.walk, directory, found]
    simp only [bne_self_eq_false, Bool.false_eq_true, if_false, isName.nonempty,
      isName.notHere, isName.notAbove, Nat.not_lt.2 isName.short, decide_false, Bool.or_self]

/-- **To a settled place** by its own names. -/
theorem walk_names (h : Settled d (rest.reverse ++ names)) (hfuel : rest.length ≤ fuel) :
    d.walk fuel links names rest = .ok (rest.reverse ++ names) := by
  induction rest generalizing names fuel with
  | nil => rw [Disk.walk, List.reverse_nil, List.nil_append]
  | cons name rest ih =>
    rw [List.reverse_cons, List.append_assoc, List.singleton_append] at h ⊢
    cases fuel with
    | zero => cases hfuel
    | succ fuel =>
      -- the place behind this name is settled, for it is on the way
      rw [h.of_append.walk_cons]
      exact ih h (Nat.le_of_succ_le_succ hfuel)

end Settled

/-! ## Paths -/

theorem toList_pathOf (names : List String) :
    (pathOf names).toList = '/' :: ['/'].intercalate (names.reverse.map String.toList) := by
  rw [pathOf, Location.ofParts, if_pos rfl, String.toList_append, Text.joined,
    String.toList_intercalate]
  rfl

theorem isAbsolute_pathOf (names : List String) : Location.isAbsolute (pathOf names) = true := by
  rw [Location.isAbsolute, toList_pathOf]
  rfl

/-- The path of a place is the same seen from every directory. -/
theorem join_of_pathOf (directory : String) (names : List String) :
    Location.join directory (pathOf names) = pathOf names := by
  rw [Location.join, isAbsolute_pathOf, Bool.true_or, if_pos rfl]

/-- The path of a place has its names as parts, the innermost last. -/
theorem segments_pathOf {names : List String} (hne : names ≠ [])
    (h : ∀ name ∈ names, '/' ∉ name.toList) :
    Location.segments (pathOf names) = "" :: names.reverse := by
  have hpieces : ∀ piece ∈ names.reverse.map String.toList, '/' ∉ piece := by
    intro piece hpiece
    obtain ⟨name, hname, rfl⟩ := List.mem_map.1 hpiece
    exact h name (List.mem_reverse.1 hname)
  have hpieces_ne : names.reverse.map String.toList ≠ [] := by simpa using hne
  rw [Location.segments, toList_pathOf, Text.splitAt_cons_self, List.map_cons,
    Text.splitAt_intercalate hpieces_ne hpieces, List.map_map]
  simp [Function.comp_def]

/-- A path is gone along by the names that it was made from. -/
theorem Settled.walk_segments {names : List String} (h : Settled d names) {fuel links : Nat}
    (hfuel : (Location.segments (pathOf names)).length ≤ fuel) :
    d.walk fuel links [] (Location.segments (pathOf names)) = .ok names := by
  have hskip : ∀ fuel rest, d.walk (fuel + 1) links [] ("" :: rest) = d.walk fuel links [] rest :=
    fun _ _ => rfl
  by_cases hnames : names = []
  · subst hnames
    have hroot : Location.segments (pathOf []) = ["", ""] := rfl
    rw [hroot] at hfuel ⊢
    obtain ⟨fuel, rfl⟩ := Nat.exists_eq_add_of_le' hfuel
    rw [List.length_cons, List.length_singleton, ← Nat.add_assoc, hskip, hskip, Disk.walk]
  · rw [segments_pathOf hnames h.noSlash] at hfuel ⊢
    obtain ⟨fuel, rfl⟩ := Nat.exists_eq_add_of_le' hfuel
    have hplace : Settled d (names.reverse.reverse ++ []) := by
      rwa [List.reverse_reverse, List.append_nil]
    have hwalk : d.walk (fuel + names.reverse.length) links [] names.reverse = .ok _ :=
      hplace.walk_names (Nat.le_add_left ..)
    rw [List.reverse_reverse, List.append_nil] at hwalk
    rw [List.length_cons, ← Nat.add_assoc, hskip, hwalk]

/-- What a location leads to is where the walk along its segments ends. -/
theorem walk_of_canonical? {path key : String} (h : d.canonical? path = .ok key) :
    ∃ fuel names, key = pathOf names ∧
      d.walk fuel linkLimit [] (Location.segments (Location.join d.workingDirectory path)) =
        .ok names := by
  rw [canonical?] at h
  split at h
  · cases h
  split at h
  · cases h
  simp only at h
  generalize hwalk : d.walk _ linkLimit [] _ = r at h
  cases r with
  | error e => cases h
  | ok names => exact ⟨_, names, (Except.ok.inj h).symm, hwalk⟩

/-- What a location leads to is the path of a settled place. -/
theorem settled_of_canonical? {path key : String} (h : d.canonical? path = .ok key) :
    ∃ names, Settled d names ∧ key = pathOf names := by
  obtain ⟨fuel, names, hkey, hwalk⟩ := walk_of_canonical? h
  exact ⟨names, Settled.root.walk (fun _ => Location.not_mem_of_mem_segments) hwalk, hkey⟩

/-- **A canonical path** is its own canonical path. -/
theorem canonical?_of_canonical? {path key : String} (h : d.canonical? path = .ok key)
    (hkey : '\x00' ∉ key.toList) : d.canonical? key = .ok key := by
  obtain ⟨names, hnames, rfl⟩ := settled_of_canonical? h
  have hlist := toList_pathOf names
  have hnonempty : (pathOf names).isEmpty = false := by
    rw [← Bool.not_eq_true, String.isEmpty_iff]
    intro hempty
    rw [hempty] at hlist
    cases hlist
  have hnul : ¬(pathOf names).toList.contains '\x00' = true := by simpa using hkey
  rw [canonical?, hnonempty, if_neg Bool.false_ne_true, if_neg hnul, join_of_pathOf]
  simp only
  rw [hnames.walk_segments (by omega)]
  rfl

/-! ## Files -/

variable {path key : String} {text : Option String} {modified : Nat}

theorem modified?_eq_some_iff :
    d.modified? key = .ok (some modified) ↔ ∃ text, d.node? key = some (.file text modified) := by
  constructor
  · intro h
    rw [modified?] at h
    split at h
    · rename_i text time hnode
      obtain rfl := Option.some.inj (Except.ok.inj h)
      exact ⟨text, hnode⟩
    · cases h
    · cases h
  · rintro ⟨text, hnode⟩
    rw [modified?, hnode]

/-- Something is at every canonical path. -/
theorem exists_modified?_of_canonical? (h : d.canonical? path = .ok key) :
    ∃ time, d.modified? key = .ok time := by
  obtain ⟨names, hnames, rfl⟩ := settled_of_canonical? h
  have hnode : ∃ node, d.node? (pathOf names) = some node := by
    by_cases hroot : pathOf names = "/"
    · exact ⟨_, if_pos hroot⟩
    · cases hnames with
      | root => exact absurd rfl hroot
      | entry name names node inside directory isName found noLink =>
        exact ⟨node, (if_neg hroot).trans found⟩
  obtain ⟨node, hnode⟩ := hnode
  rw [modified?, hnode]
  cases node with
  | file text modified => exact ⟨some modified, rfl⟩
  | directory => exact ⟨none, rfl⟩
  | link target => exact ⟨none, rfl⟩

/-- **Reading** a canonical path gives what the file there says. -/
theorem read?_eq_ok_iff (hpath : d.canonical? path = .ok key) :
    d.read? key = .ok text ↔
      '\x00' ∉ key.toList ∧ ∃ modified, d.node? key = some (.file text modified) := by
  constructor
  · intro h
    have hnul : '\x00' ∉ key.toList := by
      intro hmem
      -- such a location is refused before the disk is looked at
      have hrefused : d.canonical? key = .error .notFound ∨
          d.canonical? key = .error .invalidName := by
        rw [canonical?]
        split
        · exact .inl rfl
        · rw [if_pos (by simpa using hmem)]
          exact .inr rfl
      rcases hrefused with hrefused | hrefused
      · rw [read?, hrefused] at h
        cases h
      · rw [read?, hrefused] at h
        cases h
    refine ⟨hnul, ?_⟩
    rw [read?, canonical?_of_canonical? hpath hnul, Except.bind] at h
    split at h
    · rename_i time hnode
      obtain rfl := Except.ok.inj h
      exact ⟨time, hnode⟩
    · cases h
  · rintro ⟨hnul, time, hnode⟩
    rw [read?, canonical?_of_canonical? hpath hnul, Except.bind]
    simp only [hnode]

end Disk

end CodeSnapshot

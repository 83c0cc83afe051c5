import CodeSnapshot.Proofs.Disk.Removal

/-!
# Straight paths — files by the directory that they are in

A path names a file by its directory and its name. If no link is followed on the way to the
directory, the file has one canonical path, which is the same whether the file is there or not, and
however the path is spelled.

* **`LeadsStraight`**, **`Denotes`** — the way to a directory, and the file that a path names in it.
* **`LeadsStraight.canonical?_eq`** — what leads straight to a directory has its canonical path.
* **`parts_pathOf`**, **`join_pathOf`**, **`parent?_pathOf`** — the path of an entry is put together
  from the one of its directory, and taken apart again.
* **`canonical?_entry`** — the canonical path of an entry that is no link, if it has one.
-/

namespace CodeSnapshot.Disk

variable {d : Disk} {fuel fuel' links : Nat} {path key name : String}
  {names rest more segments stop : List String}

/-! ## Names of entries -/

/-- A part of a path that stands for an entry of a directory. -/
structure IsEntryName (name : String) : Prop where
  nonempty : name ≠ ""
  notHere : name ≠ "."
  notAbove : name ≠ ".."
  noSlash : '/' ∉ name.toList

theorem Settled.isEntryName (h : Settled d names) : ∀ name ∈ names, IsEntryName name := by
  induction h with
  | root => exact nofun
  | entry name names node inside directory isName found noLink ih =>
    have hname : IsEntryName name :=
      ⟨isName.nonempty, isName.notHere, isName.notAbove, isName.noSlash⟩
    exact List.forall_mem_cons.2 ⟨hname, ih⟩

theorem isEntryName_of_fileName? (h : Location.fileName? path = some name) : IsEntryName name := by
  rw [Location.fileName?] at h
  split at h
  · next last hlast =>
    split at h
    · cases h
    · next hdots =>
      obtain rfl := Option.some.inj h
      obtain ⟨hnonempty, hslash⟩ := Location.nonempty_of_mem_parts (List.mem_of_getLast? hlast)
      simp only [Bool.or_eq_true, decide_eq_true_eq, not_or] at hdots
      exact ⟨hnonempty, hdots.1, hdots.2, hslash⟩
  · cases h

/-! ## The path of an entry -/

theorem parts_pathOf (h : ∀ name ∈ names, IsEntryName name) :
    Location.parts (pathOf names) = names.reverse := by
  by_cases hnames : names = []
  · subst hnames
    rfl
  · have hkeep : ∀ name ∈ names.reverse, decide (name ≠ "" ∧ name ≠ ".") = true := by
      intro name hname
      have hentry := h name (List.mem_reverse.1 hname)
      exact decide_eq_true ⟨hentry.nonempty, hentry.notHere⟩
    -- the path starts with a slash, so what stands before it says nothing
    rw [Location.parts, segments_pathOf hnames fun name hname => (h name hname).noSlash]
    simpa using hkeep

theorem normalForm_pathOf (h : ∀ name ∈ names, IsEntryName name) :
    Location.normalForm (pathOf names) = pathOf names := by
  rw [Location.normalForm, isAbsolute_pathOf, parts_pathOf h]
  rfl

theorem parent?_pathOf (h : ∀ other ∈ name :: names, IsEntryName other) :
    Location.parent? (pathOf (name :: names)) = some (pathOf names) := by
  have hparts := parts_pathOf h
  rw [List.reverse_cons] at hparts
  rw [Location.parent?, hparts, isAbsolute_pathOf]
  split
  · next hnil => exact absurd hnil (by simp)
  · rw [List.dropLast_concat]
    rfl

theorem node?_pathOf (h : ∀ other ∈ name :: names, IsEntryName other) :
    d.node? (pathOf (name :: names)) = d.nodeAt? (name :: names) := by
  have hroot : pathOf (name :: names) ≠ "/" := by
    intro heq
    have hparts : Location.parts "/" = (name :: names).reverse := heq ▸ parts_pathOf h
    exact absurd (List.reverse_eq_nil_iff.1 hparts.symm) (List.cons_ne_nil _ _)
  exact if_neg hroot

theorem pathOf_cons (name : String) (hne : names ≠ []) :
    pathOf (name :: names) = pathOf names ++ "/" ++ name := by
  have hrest : names.reverse ≠ [] := by simpa using hne
  rw [pathOf, pathOf, Location.ofParts, Location.ofParts, if_pos rfl, List.reverse_cons,
    Text.joined, String.intercalate_append_of_ne_nil hrest (List.cons_ne_nil _ _)]
  simp [Text.joined, String.append_assoc]

/-- The path of an entry ends with its name. -/
theorem exists_pathOf_cons (name : String) (names : List String) :
    ∃ front, pathOf (name :: names) = front ++ name := by
  by_cases hnames : names = []
  · subst hnames
    exact ⟨"/", rfl⟩
  · exact ⟨_, pathOf_cons name hnames⟩

theorem isAbsolute_eq_false (h : IsEntryName name) : Location.isAbsolute name = false := by
  rw [Location.isAbsolute]
  cases hname : name.toList with
  | nil => rfl
  | cons c text =>
    have hc : c ≠ '/' := by
      rintro rfl
      exact h.noSlash (hname ▸ List.mem_cons_self ..)
    simpa using hc

theorem join_pathOf (h : ∀ other ∈ name :: names, IsEntryName other) :
    Location.join (pathOf names) name = pathOf (name :: names) := by
  obtain ⟨hname, hnames⟩ := List.forall_mem_cons.1 h
  cases names with
  | nil =>
    rw [Location.join, isAbsolute_eq_false hname]
    rfl
  | cons last rest =>
    obtain ⟨front, hpath⟩ := exists_pathOf_cons last rest
    have hlast := hnames last (List.mem_cons_self ..)
    have hchars : last.toList ≠ [] := fun hnil => hlast.nonempty (String.toList_eq_nil_iff.1 hnil)
    have hempty : (pathOf (last :: rest)).isEmpty = false := by
      rw [hpath, ← Bool.not_eq_true, String.isEmpty_iff, String.append_eq_empty_iff]
      exact fun hnil => hlast.nonempty hnil.2
    -- the directory does not end with a slash, so one is put between the two
    have hslash : ((pathOf (last :: rest)).toList.getLast? == some '/') = false := by
      rw [hpath, String.toList_append, List.getLast?_append, List.getLast?_eq_some_getLast hchars,
        Option.some_or, beq_eq_false_iff_ne]
      exact fun hend => hlast.noSlash (Option.some.inj hend ▸ List.getLast_mem hchars)
    rw [Location.join, isAbsolute_eq_false hname, hempty, hslash, pathOf_cons name (by simp)]
    rfl

/-! ## The way to a directory -/

/-- A location leads to the directory with some names, and no link is followed on the way. -/
structure LeadsStraight (d : Disk) (path : String) (names : List String) : Prop where
  nonempty : path ≠ ""
  noNul : '\x00' ∉ path.toList
  walk : ∃ fuel,
    d.walk fuel 0 [] (Location.segments (Location.join d.workingDirectory path)) = .ok names
  directory : d.nodeAt? names = some .directory

/-- **A walk without links** needs as much fuel as there are segments, and no link to follow. -/
theorem walk_straight (h : d.walk fuel 0 names segments = .ok stop)
    (hfuel : segments.length ≤ fuel') : d.walk fuel' links names segments = .ok stop := by
  generalize hzero : 0 = budget at h
  fun_induction Disk.walk d fuel budget names segments generalizing fuel' with
  | case1 =>
    rw [walk]
    exact h
  | case2 => cases h
  | case3 => cases h
  | case4 fuel budget names segment rest hdirectory hhere ih =>
    obtain ⟨less, rfl⟩ := Nat.exists_eq_add_of_le' hfuel
    have hdirectory : d.nodeAt? names = some .directory := by simpa using hdirectory
    rw [List.length_cons, ← Nat.add_assoc, walk_cons hdirectory, if_pos hhere]
    exact ih (Nat.le_add_left ..) hzero h
  | case5 fuel budget names rest hdirectory hhere ih =>
    obtain ⟨less, rfl⟩ := Nat.exists_eq_add_of_le' hfuel
    have hdirectory : d.nodeAt? names = some .directory := by simpa using hdirectory
    rw [List.length_cons, ← Nat.add_assoc, walk_cons hdirectory, if_neg hhere, if_pos rfl]
    exact ih (Nat.le_add_left ..) hzero h
  | case6 => cases h
  | case7 => cases h
  | case8 => cases h
  | case9 fuel budget names segment rest hdirectory hhere habove hlong target hlink hlinks ih =>
    exact absurd hzero.symm hlinks
  | case10 fuel budget names segment rest hdirectory hhere habove hlong node hnolink hfound ih =>
    obtain ⟨less, rfl⟩ := Nat.exists_eq_add_of_le' hfuel
    have hdirectory : d.nodeAt? names = some .directory := by simpa using hdirectory
    rw [List.length_cons, ← Nat.add_assoc, walk_cons hdirectory, if_neg hhere, if_neg habove,
      if_neg hlong, hfound]
    cases node with
    | file text modified => exact ih (Nat.le_add_left ..) hzero h
    | directory => exact ih (Nat.le_add_left ..) hzero h
    | link target => exact absurd rfl (hnolink target)

namespace LeadsStraight

theorem settled (h : d.LeadsStraight path names) : Settled d names := by
  obtain ⟨fuel, hwalk⟩ := h.walk
  exact Settled.root.walk (fun _ => Location.not_mem_of_mem_segments) hwalk

/-- **What leads straight to a directory** has its canonical path. -/
theorem canonical?_eq (h : d.LeadsStraight path names) :
    d.canonical? path = .ok (pathOf names) := by
  obtain ⟨fuel, hwalk⟩ := h.walk
  have hnonempty : path.isEmpty = false := by
    rw [← Bool.not_eq_true, String.isEmpty_iff]
    exact h.nonempty
  have hnul : ¬path.toList.contains '\x00' = true := by simpa using h.noNul
  rw [canonical?, hnonempty, if_neg Bool.false_ne_true, if_neg hnul]
  simp only
  rw [walk_straight hwalk (by omega)]
  rfl

end LeadsStraight

/-! ## Files -/

/-- **Along the names** of a settled place, a walk with any fuel comes there first. -/
theorem Settled.exists_walk (h : Settled d (rest.reverse ++ names))
    (hwalk : d.walk fuel links names (rest ++ more) = .ok stop) :
    ∃ less, d.walk less links (rest.reverse ++ names) more = .ok stop := by
  induction rest generalizing names fuel with
  | nil => exact ⟨fuel, hwalk⟩
  | cons name rest ih =>
    rw [List.reverse_cons, List.append_assoc, List.singleton_append] at h ⊢
    obtain ⟨less, rfl⟩ := exists_fuel hwalk
    rw [List.cons_append, h.of_append.walk_cons] at hwalk
    exact ih h hwalk

/-- **An entry that is no link** has no canonical path but its own. -/
theorem canonical?_entry (h : Settled d names) (hdirectory : d.nodeAt? names = some .directory)
    (hname : IsEntryName name) (hlink : ∀ target, d.nodeAt? (name :: names) ≠ some (.link target))
    (hkey : d.canonical? (pathOf (name :: names)) = .ok key) : key = pathOf (name :: names) := by
  obtain ⟨fuel, stop, rfl, hwalk⟩ := walk_of_canonical? hkey
  have hnames : ∀ other ∈ name :: names, IsEntryName other :=
    List.forall_mem_cons.2 ⟨hname, h.isEntryName⟩
  rw [join_of_pathOf, segments_pathOf (List.cons_ne_nil _ _) fun other hother =>
    (hnames other hother).noSlash, List.reverse_cons] at hwalk
  -- from the root to the directory, by way of the nothing before the first slash
  obtain ⟨less, rfl⟩ := exists_fuel hwalk
  rw [walk_cons rfl, if_pos (by simp)] at hwalk
  obtain ⟨less, hwalk⟩ := Settled.exists_walk (by simpa using h) hwalk
  obtain ⟨last, rfl⟩ := exists_fuel hwalk
  have hplace : names.reverse.reverse ++ [] = names := by simp
  have hhere : ¬(name = "" || name = ".") = true := by simpa using ⟨hname.nonempty, hname.notHere⟩
  rw [hplace, walk_cons hdirectory, if_neg hhere, if_neg hname.notAbove] at hwalk
  split at hwalk
  · cases hwalk
  · split at hwalk
    · cases hwalk
    · next target hfound => exact absurd hfound (hlink target)
    · rw [walk] at hwalk
      rw [Except.ok.inj hwalk]

/-- The directory that a path names before the name of its file. A name alone is one of the
directory from which it is seen. -/
def directoryOf (path : String) : String :=
  let directory := (Location.parent? path).getD ""
  if directory.isEmpty then "." else directory

/-- A path leads straight to the directory of a file, and ends with the file's name; the file need
not be there. -/
def Denotes (d : Disk) (path key : String) : Prop :=
  ∃ name names, Location.fileName? path = some name ∧ d.LeadsStraight (directoryOf path) names ∧
    key = pathOf (name :: names)

namespace Denotes

theorem isEntryName (h : d.Denotes path key) : ∃ name names, key = pathOf (name :: names) ∧
    Settled d names ∧ d.nodeAt? names = some .directory ∧
      ∀ other ∈ name :: names, IsEntryName other := by
  obtain ⟨name, names, hname, hdirectory, rfl⟩ := h
  refine ⟨name, names, rfl, hdirectory.settled, hdirectory.directory, ?_⟩
  exact List.forall_mem_cons.2 ⟨isEntryName_of_fileName? hname, hdirectory.settled.isEntryName⟩

theorem exists_parent? (h : d.Denotes path key) :
    ∃ directory, Location.parent? key = some directory := by
  obtain ⟨name, names, rfl, -, -, hnames⟩ := h.isEntryName
  exact ⟨_, parent?_pathOf hnames⟩

/-- **A file that is no link** is known by its canonical path, whether it is there or not. -/
theorem canonical?_or (h : d.Denotes path key)
    (hlink : ∀ target, d.node? key ≠ some (.link target)) :
    d.canonical? key = .ok key ∨
      (∃ e, d.canonical? key = .error e) ∧ Location.normalForm key = key := by
  obtain ⟨name, names, rfl, hsettled, hdirectory, hnames⟩ := h.isEntryName
  obtain ⟨hname, -⟩ := List.forall_mem_cons.1 hnames
  rw [node?_pathOf hnames] at hlink
  cases hkey : d.canonical? (pathOf (name :: names)) with
  | ok found => exact .inl (by rw [canonical?_entry hsettled hdirectory hname hlink hkey])
  | error e => exact .inr ⟨⟨e, rfl⟩, normalForm_pathOf hnames⟩

end Denotes

end CodeSnapshot.Disk

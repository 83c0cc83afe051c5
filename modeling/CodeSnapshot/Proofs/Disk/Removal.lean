import CodeSnapshot.Proofs.Disk.CanonicalPaths
import CodeSnapshot.Proofs.Sorted.MapLookup

/-!
# Removed files — nothing leads to a file that is gone

Whatever leads to a file, by its name, through links or through `..`, leads nowhere once the file is
removed: the last step of the way is missing, and no other way is taken for it.

* **`walk_unique`** — a walk on a disk with fewer nodes goes no other way than before.
* **`canonical?_erase`** — the headline: a location of a removed file has no canonical path.
* **`normalForm_ne_of_relative`** — a relative path is no spelling of a canonical one.
-/

namespace CodeSnapshot

theorem StringMap.get?_of_get?_erase {β : Type} {m : StringMap β} {key other : String} {v : β}
    (h : (m.erase key).get? other = some v) : other ≠ key ∧ m.get? other = some v := by
  rw [← mem_entries_iff, erase, List.mem_filter] at h
  exact ⟨by simpa using h.2, mem_entries_iff.1 h.1⟩

namespace Disk

variable {d d' : Disk} {fuel fuel' links : Nat} {path key segment : String}
  {names rest segments stop stop' : List String}

/-! ## Walks on fewer nodes -/

/-- Every place of one disk is the same on another. -/
def Within (d' d : Disk) : Prop :=
  ∀ names node, d'.nodeAt? names = some node → d.nodeAt? names = some node

theorem within_erase (d : Disk) (key : String) : (d.erase key).Within d := by
  intro names node h
  cases names with
  | nil => exact h
  | cons name names => exact (StringMap.get?_of_get?_erase h).2

/-- One step from a directory. -/
theorem walk_cons (hdirectory : d.nodeAt? names = some .directory) :
    d.walk (fuel + 1) links names (segment :: rest) =
      if segment = "" || segment = "." then d.walk fuel links names rest
      else if segment = ".." then d.walk fuel links (names.drop 1) rest
      else if nameLimit < segment.utf8ByteSize then .error .nameTooLong
      else
        match d.nodeAt? (segment :: names) with
        | none => .error .notFound
        | some (.link target) =>
          if links = 0 then .error .tooManyLinks
          else
            d.walk fuel (links - 1) (if Location.isAbsolute target then [] else names)
              (Location.segments target ++ rest)
        | some _ => d.walk fuel links (segment :: names) rest := by
  rw [walk, hdirectory]
  rfl

theorem exists_fuel (h : d.walk fuel links names (segment :: rest) = .ok stop) :
    ∃ less, fuel = less + 1 := by
  cases fuel with
  | zero => cases h
  | succ less => exact ⟨less, rfl⟩

/-- **A walk on fewer nodes** that arrives does so where the walk on all nodes arrives, whatever
fuel either of them has. -/
theorem walk_unique (hwithin : d'.Within d)
    (h' : d'.walk fuel' links names segments = .ok stop')
    (h : d.walk fuel links names segments = .ok stop) : stop' = stop := by
  fun_induction Disk.walk d' fuel' links names segments generalizing fuel with
  | case1 =>
    rw [walk] at h
    exact Except.ok.inj (h'.symm.trans h)
  | case2 => cases h'
  | case3 => cases h'
  | case4 fuel' links names segment rest hdirectory hhere ih =>
    have hdirectory := hwithin names _ (by simpa using hdirectory)
    obtain ⟨less, rfl⟩ := exists_fuel h
    rw [walk_cons hdirectory, if_pos hhere] at h
    exact ih h' h
  | case5 fuel' links names rest hdirectory hhere ih =>
    have hdirectory := hwithin names _ (by simpa using hdirectory)
    obtain ⟨less, rfl⟩ := exists_fuel h
    rw [walk_cons hdirectory, if_neg hhere, if_pos rfl] at h
    exact ih h' h
  | case6 => cases h'
  | case7 => cases h'
  | case8 => cases h'
  | case9 fuel' links names segment rest hdirectory hhere habove hlong target hlink hlinks ih =>
    have hdirectory := hwithin names _ (by simpa using hdirectory)
    obtain ⟨less, rfl⟩ := exists_fuel h
    rw [walk_cons hdirectory, if_neg hhere, if_neg habove, if_neg hlong,
      hwithin _ _ hlink] at h
    exact ih h' (by simpa only [if_neg hlinks] using h)
  | case10 fuel' links names segment rest hdirectory hhere habove hlong node hnolink hfound ih =>
    have hdirectory := hwithin names _ (by simpa using hdirectory)
    obtain ⟨less, rfl⟩ := exists_fuel h
    rw [walk_cons hdirectory, if_neg hhere, if_neg habove, if_neg hlong,
      hwithin _ _ hfound] at h
    cases node with
    | file text modified => exact ih h' h
    | directory => exact ih h' h
    | link target => exact absurd rfl (hnolink target)

/-! ## The removed file -/

/-- **Nothing leads to a removed file**, whichever location led there before. -/
theorem canonical?_erase {text : Option String} {modified : Nat}
    (h : d.canonical? path = .ok key) (hfile : d.node? key = some (.file text modified)) :
    ∃ e, (d.erase key).canonical? path = .error e := by
  cases herased : (d.erase key).canonical? path with
  | error e => exact ⟨e, rfl⟩
  | ok key' =>
    obtain ⟨fuel, names, rfl, hwalk⟩ := walk_of_canonical? h
    obtain ⟨fuel', names', -, hwalk'⟩ := walk_of_canonical? herased
    -- the same way as before, but its end is missing
    obtain rfl := walk_unique (within_erase d _) hwalk' hwalk
    have hsettled : Settled (d.erase _) names' :=
      Settled.root.walk (fun _ => Location.not_mem_of_mem_segments) hwalk'
    cases hsettled with
    | root => cases hfile
    | entry name names node inside directory isName found noLink =>
      exact absurd rfl (StringMap.get?_of_get?_erase found).1

end Disk

/-! ## Spellings -/

namespace Location

variable {path part : String}

theorem nonempty_of_mem_parts (h : part ∈ parts path) : part ≠ "" ∧ '/' ∉ part.toList := by
  have hfilter : ∀ all : List String,
      part ∈ all.filter (fun s => s ≠ "" && s ≠ ".") → part ∈ all ∧ part ≠ "" := by
    intro all hmem
    obtain ⟨hmem, hne⟩ := List.mem_filter.1 hmem
    simp only [Bool.and_eq_true, decide_eq_true_eq] at hne
    exact ⟨hmem, hne.1⟩
  rw [parts] at h
  split at h
  · rename_i rest hsegments
    rcases List.mem_cons.1 h with rfl | h
    · exact ⟨by decide, by decide⟩
    · obtain ⟨hmem, hne⟩ := hfilter rest h
      exact ⟨hne, not_mem_of_mem_segments (hsegments ▸ List.mem_cons_of_mem "." hmem)⟩
  · obtain ⟨hmem, hne⟩ := hfilter _ h
    exact ⟨hne, not_mem_of_mem_segments hmem⟩

/-- A canonical path starts with a slash, and a relative one does not, however it is spelled. -/
theorem normalForm_ne_of_relative (h : isAbsolute path = false) (names : List String) :
    normalForm path ≠ Disk.pathOf names := by
  intro heq
  have hlist := Disk.toList_pathOf names
  rw [← heq, normalForm, h, ofParts, if_neg Bool.false_ne_true, String.empty_append, Text.joined,
    String.toList_intercalate] at hlist
  cases hparts : parts path with
  | nil =>
    rw [hparts] at hlist
    cases hlist
  | cons part rest =>
    have hpart : part ∈ parts path := hparts ▸ List.mem_cons_self ..
    obtain ⟨hne, hslash⟩ := nonempty_of_mem_parts hpart
    cases htext : part.toList with
    | nil => exact hne (String.toList_eq_nil_iff.1 htext)
    | cons c text =>
      -- the first part does not start with a slash, and nothing stands before it
      have hfirst : c = '/' := by
        rw [hparts, List.map_cons, htext] at hlist
        cases rest with
        | nil => exact (List.cons.inj hlist).1
        | cons next rest => exact (List.cons.inj hlist).1
      rw [htext, hfirst] at hslash
      exact hslash (List.mem_cons_self ..)

end Location

end CodeSnapshot

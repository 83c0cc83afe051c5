import CodeSnapshot.Proofs.Cache.Freshness
import CodeSnapshot.Proofs.Disk.Removal

/-!
# Invalidation — which entry is reached by a location

A document is kept under the canonical path that its location had when it was loaded. Invalidating
asks for the canonical path anew, and takes the location as it is spelled if there is none. So what
happened on the disk in between decides which entry is meant.

* **`Reaches`** — an invalidation removes the entry of a file, and says so; `reaches_iff` tells
  when, for an entry that is there.
* **`Loads.exists_file`** — a document that was loaded is that of a file.
* **`reaches_loaded_iff`** — the headline: when invalidating a location reaches the entry that
  loading it gave, in general, and after the file was removed.
* **`not_reaches_removed`** — a removed file that was loaded by a relative path stays in the cache.
-/

namespace CodeSnapshot.DocumentCache

variable {c c' : DocumentCache} {disk : Disk} {path file : String}

/-- Invalidating a location removes the entry of a file, and says that there was one. -/
def Reaches (c : DocumentCache) (disk : Disk) (path file : String) : Prop :=
  (c.invalidate disk path).1 = true ∧ (c.invalidate disk path).2.recent.contains file = false

theorem key_eq_iff :
    key disk path = file ↔ disk.canonical? path = .ok file ∨
      (∃ e, disk.canonical? path = .error e) ∧ Location.normalForm path = file := by
  rw [key]
  cases disk.canonical? path with
  | ok found => simp
  | error e => simp

/-- Only the entry under the key of the location is removed. -/
theorem reaches_iff (hheld : c.recent.contains file = true) :
    c.Reaches disk path file ↔ disk.canonical? path = .ok file ∨
      (∃ e, disk.canonical? path = .error e) ∧ Location.normalForm path = file := by
  have hremoved : (c.invalidate disk path).2.recent.contains file =
      (file != key disk path && c.recent.contains file) := Recent.contains_erase ..
  rw [← key_eq_iff, Reaches, hremoved, hheld, Bool.and_true, bne_eq_false_iff_eq]
  constructor
  · rintro ⟨-, heq⟩
    exact heq.symm
  · rintro rfl
    exact ⟨hheld, rfl⟩

/-- What gives a document is a file. -/
theorem Loads.exists_file {handle : Handle} (hloads : c.Loads disk path (.ok handle) c')
    (hpath : disk.canonical? path = .ok file) :
    ∃ text modified, disk.node? file = some (.file text modified) := by
  cases hloads with
  | found key entry canonical entry_eq modified =>
    obtain rfl := Except.ok.inj (hpath.symm.trans canonical)
    obtain ⟨text, hnode⟩ := Disk.modified?_eq_some_iff.1 modified
    exact ⟨text, _, hnode⟩
  | parsed key text modified canonical content modified_eq stale =>
    obtain rfl := Except.ok.inj (hpath.symm.trans canonical)
    obtain ⟨text, hnode⟩ := Disk.modified?_eq_some_iff.1 modified_eq
    exact ⟨text, _, hnode⟩

/-- **Invalidating the location of an entry.** A document was loaded by a location at some moment of
a cache's history, and its entry is still there. Then invalidating the same location reaches the
entry if and only if the location still leads to that file, or leads nowhere and is a spelling of
the file's canonical path. So once the file is removed, it is reached by the spellings of its
canonical path and by no other location, in particular by no relative path. -/
theorem reaches_loaded_iff [Regexes] (capacity : Nat) (history between : History)
    (disk later : Disk) (path file : String) (handle : Handle) (modified : Nat)
    (hload : (((ofCapacity capacity).after history).load disk path).1 = .ok handle)
    (hpath : disk.canonical? path = .ok file)
    (hkept : ((((ofCapacity capacity).after history).load disk path).2.after between).recent.get?
      file = some ⟨modified, handle⟩) :
    let kept := (((ofCapacity capacity).after history).load disk path).2.after between
    (kept.Reaches later path file ↔ later.canonical? path = .ok file ∨
      (∃ e, later.canonical? path = .error e) ∧ Location.normalForm path = file) ∧
    (kept.Reaches (disk.erase file) path file ↔ Location.normalForm path = file) ∧
    (Location.isAbsolute path = false → ¬ kept.Reaches (disk.erase file) path file) := by
  intro kept
  have hheld : kept.recent.contains file = true := congrArg Option.isSome hkept
  have hloads := ((ofCapacity capacity).after history).loads disk path
  rw [hload] at hloads
  obtain ⟨text, time, hfile⟩ := hloads.exists_file hpath
  obtain ⟨e, hgone⟩ := Disk.canonical?_erase hpath hfile
  have hremoved : kept.Reaches (disk.erase file) path file ↔ Location.normalForm path = file := by
    rw [reaches_iff hheld, hgone]
    simp
  refine ⟨reaches_iff hheld, hremoved, fun hrelative hreaches => ?_⟩
  obtain ⟨names, -, rfl⟩ := Disk.settled_of_canonical? hpath
  exact Location.normalForm_ne_of_relative hrelative names (hremoved.1 hreaches)

/-- A file that was loaded by a spelling of its canonical path is removed, and asked for in vain.
Its entry is reached by the same spelling. -/
theorem reaches_loaded_iff_at_spelling :
    let disk := (({ workingDirectory := "/w" } : Disk).put "/w" .directory).put "/w/a"
      (.file (some "x") 1)
    let loaded := ((ofCapacity 1).after []).load disk "/w//./a"
    let kept := loaded.2.after [(disk.erase "/w/a", .load "/w/a")]
    loaded.1 = .ok ⟨0, Document.parse "/w/a" 1 "x"⟩ ∧
      kept.Reaches (disk.erase "/w/a") "/w//./a" "/w/a" := by
  intro disk loaded kept
  obtain ⟨hload, hpath, hkept⟩ : loaded.1 = .ok ⟨0, Document.parse "/w/a" 1 "x"⟩ ∧
      disk.canonical? "/w//./a" = .ok "/w/a" ∧
      kept.recent.get? "/w/a" = some ⟨1, 0, Document.parse "/w/a" 1 "x"⟩ := by
    subst kept loaded disk
    exact ⟨rfl, rfl, rfl⟩
  have hspelling : Location.normalForm "/w//./a" = "/w/a" := by decide
  have hreaches := reaches_loaded_iff 1 [] [(disk.erase "/w/a", .load "/w/a")] disk
    (disk.erase "/w/a") "/w//./a" "/w/a" _ 1 hload hpath hkept
  exact ⟨hload, hreaches.2.1.2 hspelling⟩

/-- A file that was loaded by a relative path is removed. Its entry is kept, and invalidating the
same path from the same directory does not reach it. -/
theorem not_reaches_removed :
    let disk := (({ workingDirectory := "/w" } : Disk).put "/w" .directory).put "/w/a"
      (.file (some "x") 1)
    let later := disk.erase "/w/a"
    let loaded := (ofCapacity 1).load disk "a"
    loaded.1 = .ok ⟨0, Document.parse "/w/a" 1 "x"⟩ ∧
      loaded.2.recent.get? "/w/a" = some ⟨1, 0, Document.parse "/w/a" 1 "x"⟩ ∧
      later.workingDirectory = disk.workingDirectory ∧
      (loaded.2.invalidate later "a").1 = false ∧
      (loaded.2.invalidate later "a").2.recent.contains "/w/a" = true ∧
      ¬ loaded.2.Reaches later "a" "/w/a" :=
  ⟨rfl, rfl, rfl, rfl, rfl, fun hreaches => Bool.false_ne_true hreaches.1⟩

end CodeSnapshot.DocumentCache

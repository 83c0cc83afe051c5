import CodeSnapshot.Cache.Documents
import CodeSnapshot.Proofs.Cache.RecentEntries
import CodeSnapshot.Proofs.Disk.CanonicalPaths

/-!
# Load outcomes — what loading a file does to a cache

A load fails before it looks into the cache or after it found nothing there that is of use, or it gives
what it found, or it reads and parses the file.

* **`Loads`** — these four outcomes, each with the cache that it leaves; `loads` says that there are no
  others.
* **`Loads.count`**, **`Loads.of_error`** — what follows for the counters, and for the entries when it
  fails.
* **`Loads.get?_of_ok`**, **`Loads.get?_of_unchanged`**, **`load_of_unchanged`** — a document is kept
  as long as its file has the same time, and is given out again.
-/

namespace CodeSnapshot

theorem Recent.touch_of_get?_eq_none {α : Type} {r : Recent α} {path : String}
    (h : r.get? path = none) : r.touch path = r := by
  rw [touch, h]

namespace DocumentCache

/-- The cache after an entry was looked for. -/
def used (c : DocumentCache) (key : String) : DocumentCache :=
  { c with recent := c.recent.touch key }

/-- The cache after a document was parsed and kept. -/
def kept (c : DocumentCache) (key : String) (modified : Nat) (document : Document) :
    DocumentCache :=
  { c with
    recent := c.recent.put key ⟨modified, ⟨c.parses, document⟩⟩
    parses := c.parses + 1 }

/-- What can come of loading a file, and the cache after it. -/
inductive Loads (c : DocumentCache) (disk : Disk) (path : String) :
    Except SnapshotError Handle → DocumentCache → Prop where
  /-- nothing is there -/
  | missing (e : SnapshotError)
      (absent : ∀ key time, disk.canonical? path = .ok key → disk.modified? key ≠ .ok time) :
      Loads c disk path (.error e) c
  /-- what is there is no text -/
  | unreadable (e : SnapshotError) (key : String) (canonical : disk.canonical? path = .ok key)
      (unread : ∀ text, disk.read? key ≠ .ok (some text)) : Loads c disk path (.error e) (c.used key)
  /-- the document is kept, and is of the time that the file has -/
  | found (key : String) (entry : CachedDocument) (canonical : disk.canonical? path = .ok key)
      (entry_eq : c.recent.get? key = some entry)
      (modified : disk.modified? key = .ok (some entry.modified)) :
      Loads c disk path (.ok entry.handle) { c.used key with hits := c.hits + 1 }
  /-- the file is parsed, since no document of its time is kept -/
  | parsed (key text : String) (modified : Nat) (canonical : disk.canonical? path = .ok key)
      (content : disk.read? key = .ok (some text))
      (modified_eq : disk.modified? key = .ok (some modified))
      (stale : ∀ entry, c.recent.get? key = some entry → entry.modified ≠ modified) :
      Loads c disk path (.ok ⟨c.parses, Document.parse key modified text⟩)
        ((c.used key).kept key modified (Document.parse key modified text))

variable {c : DocumentCache} {disk : Disk} {path key : String} {time : Option Nat}

theorem loadAt_of_stale
    (h : ∀ entry, c.recent.get? key = some entry → some entry.modified ≠ time) :
    c.loadAt disk key time = (c.used key).parse disk key time := by
  rw [loadAt]
  cases hentry : c.recent.get? key with
  | none =>
    -- looking for an entry that is not there is no use of it
    have hused : c.used key = c := by rw [used, Recent.touch_of_get?_eq_none hentry]
    rw [hused]
  | some entry => exact if_neg (h entry hentry)

theorem loadAt_of_fresh {entry : CachedDocument} (h : c.recent.get? key = some entry) :
    c.loadAt disk key (some entry.modified) =
      (.ok entry.handle, { c.used key with hits := c.hits + 1 }) := by
  rw [loadAt, h]
  exact if_pos rfl

/-- A file that can be read has a time. -/
theorem modified?_of_read? {text : Option String} (hpath : disk.canonical? path = .ok key)
    (htime : disk.modified? key = .ok time) (hread : disk.read? key = .ok text) :
    ∃ modified, time = some modified := by
  obtain ⟨-, modified, hnode⟩ := (Disk.read?_eq_ok_iff hpath).1 hread
  have hmodified := Disk.modified?_eq_some_iff.2 ⟨text, hnode⟩
  rw [htime] at hmodified
  exact ⟨modified, Except.ok.inj hmodified⟩

theorem load_eq_loadAt (hpath : disk.canonical? path = .ok key)
    (htime : disk.modified? key = .ok time) : c.load disk path = c.loadAt disk key time := by
  rw [load, hpath]
  simp only [htime]

theorem loads_parse (hpath : disk.canonical? path = .ok key)
    (htime : disk.modified? key = .ok time)
    (hstale : ∀ entry, c.recent.get? key = some entry → some entry.modified ≠ time) :
    c.Loads disk path ((c.used key).parse disk key time).1
      ((c.used key).parse disk key time).2 := by
  rw [parse]
  split
  · rename_i e hread
    refine .unreadable _ key hpath fun text => ?_
    rw [hread]
    exact nofun
  · rename_i hread
    refine .unreadable _ key hpath fun text => ?_
    rw [hread]
    exact nofun
  · rename_i text hread
    obtain ⟨modified, rfl⟩ := modified?_of_read? hpath htime hread
    exact .parsed key text modified hpath hread htime fun entry hentry heq =>
      hstale entry hentry (congrArg some heq)

theorem loads (c : DocumentCache) (disk : Disk) (path : String) :
    c.Loads disk path (c.load disk path).1 (c.load disk path).2 := by
  cases hpath : disk.canonical? path with
  | error e =>
    have hload : c.load disk path = (.error (.file e), c) := by rw [load, hpath]
    rw [hload]
    refine .missing _ fun key time hkey => ?_
    rw [hpath] at hkey
    cases hkey
  | ok key =>
    cases htime : disk.modified? key with
    | error e =>
      have hload : c.load disk path = (.error (.file e), c) := by
        rw [load, hpath]
        simp only [htime]
      rw [hload]
      refine .missing _ fun key' time hkey => ?_
      obtain rfl := Except.ok.inj (hpath.symm.trans hkey)
      rw [htime]
      exact nofun
    | ok time =>
      rw [load_eq_loadAt hpath htime]
      -- an entry of another time is as good as none
      by_cases hfresh : ∃ entry, c.recent.get? key = some entry ∧ some entry.modified = time
      · obtain ⟨entry, hentry, rfl⟩ := hfresh
        rw [loadAt_of_fresh hentry]
        exact .found key entry hpath hentry htime
      · have hstale : ∀ entry, c.recent.get? key = some entry → some entry.modified ≠ time :=
          fun entry hentry heq => hfresh ⟨entry, hentry, heq⟩
        rw [loadAt_of_stale hstale]
        exact loads_parse hpath htime hstale

namespace Loads

variable {r : Except SnapshotError Handle} {c' : DocumentCache}

/-- **The counters** count the loads that give something. -/
theorem count (h : c.Loads disk path r c') :
    c'.hits + c'.parses = c.hits + c.parses + if r.isOk then 1 else 0 := by
  cases h with
  | missing e absent => rfl
  | unreadable e key canonical unread => rfl
  | found key entry canonical entry_eq modified =>
    show c.hits + 1 + c.parses = c.hits + c.parses + 1
    omega
  | parsed key text modified canonical content modified_eq stale => rfl

/-- **A load that fails** changes neither the entries nor the counters. -/
theorem of_error {e : SnapshotError} (h : c.Loads disk path (.error e) c')
    (hc : c.recent.Distinct) :
    c'.recent.entries.Perm c.recent.entries ∧ c'.hits = c.hits ∧ c'.parses = c.parses := by
  cases h with
  | missing e absent => exact ⟨.refl _, rfl, rfl⟩
  | unreadable e key canonical unread => exact ⟨Recent.perm_touch hc key, rfl, rfl⟩

/-- The document that a load gives is kept from then on, with the time of the file. -/
theorem get?_of_ok {handle : Handle} {modified : Nat} (h : c.Loads disk path (.ok handle) c')
    (hpath : disk.canonical? path = .ok key) (hmodified : disk.modified? key = .ok (some modified)) :
    c'.recent.get? key = some ⟨modified, handle⟩ := by
  cases h with
  | found key' entry canonical entry_eq modified_eq =>
    obtain rfl := Except.ok.inj (hpath.symm.trans canonical)
    obtain rfl := Option.some.inj (Except.ok.inj (hmodified.symm.trans modified_eq))
    exact (Recent.get?_touch ..).trans entry_eq
  | parsed key' text modified' canonical content modified_eq stale =>
    obtain rfl := Except.ok.inj (hpath.symm.trans canonical)
    obtain rfl := Option.some.inj (Except.ok.inj (hmodified.symm.trans modified_eq))
    exact Recent.get?_put_self ..

/-- An entry of the time that its file has is replaced by no other. -/
theorem get?_of_unchanged {entry entry' : CachedDocument} (h : c.Loads disk path r c')
    (hentry : c.recent.get? key = some entry)
    (hmodified : disk.modified? key = .ok (some entry.modified))
    (hentry' : c'.recent.get? key = some entry') : entry' = entry := by
  have huse : ∀ other, (c.recent.touch other).get? key = some entry := fun other =>
    (Recent.get?_touch ..).trans hentry
  cases h with
  | missing e absent => exact Option.some.inj (hentry'.symm.trans hentry)
  | unreadable e other canonical unread => exact Option.some.inj (hentry'.symm.trans (huse other))
  | found other found canonical entry_eq modified =>
    exact Option.some.inj (hentry'.symm.trans (huse other))
  | parsed other text modified canonical content modified_eq stale =>
    by_cases hother : key = other
    · -- this file is not parsed, for its document is of the right time
      subst hother
      have heq := Option.some.inj (Except.ok.inj (hmodified.symm.trans modified_eq))
      exact absurd heq (stale entry hentry)
    · have hkept := Recent.get?_of_get?_put hentry' hother
      exact Option.some.inj (hkept.symm.trans (huse other))

end Loads

/-- **A document of the right time** is given out again. -/
theorem load_of_unchanged {entry : CachedDocument} (hpath : disk.canonical? path = .ok key)
    (hmodified : disk.modified? key = .ok (some entry.modified))
    (hentry : c.recent.get? key = some entry) :
    c.load disk path = (.ok entry.handle, { c.used key with hits := c.hits + 1 }) := by
  rw [load_eq_loadAt hpath hmodified, loadAt_of_fresh hentry]

end DocumentCache

end CodeSnapshot

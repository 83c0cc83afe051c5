import CodeSnapshot.Instances
import CodeSnapshot.Proofs.Cache.LoadOutcomes
import CodeSnapshot.Proofs.Sorted.MapLookup

/-!
# Cache freshness — a cache answers as if it read every file anew

Files are written and removed while a cache is in use, and the cache looks at their times only. As
long as a time tells contents apart, whatever it gives is what the file says now.

* **`Call`**, **`after`** — a history: calls of a cache one after the other, each with the disk as it is
  at that moment; between two calls the disk may change in any way.
* **`Disk.TimesTell`** — the condition on the disks: no file has two contents of one time.
* **`Remembers`** — the invariant: every entry was read from a file of its time on an earlier disk.
  `Remembers.run` is the step, `Remembers.after` the run.
* **`Remembers.shows_iff`** — with that invariant, a load gives exactly what the disk shows.
* **`cache_fresh`** — the headline, for all capacities and histories.
-/

namespace CodeSnapshot

namespace Disk

/-- The document of the file that a location leads to, as it is read and parsed at this moment. -/
def Shows (disk : Disk) (path : String) (document : Document) : Prop :=
  ∃ key text modified, disk.canonical? path = .ok key ∧ disk.read? key = .ok (some text) ∧
    disk.modified? key = .ok (some modified) ∧ document = Document.parse key modified text

/-- A file has one content at one time, on whichever of the disks it is seen. -/
def TimesTell (disks : List Disk) : Prop :=
  ∀ d ∈ disks, ∀ d' ∈ disks, ∀ key text text' modified,
    d.node? key = some (.file text modified) → d'.node? key = some (.file text' modified) →
      text = text'

theorem Shows.unique {disk : Disk} {path : String} {document document' : Document}
    (h : disk.Shows path document) (h' : disk.Shows path document') : document' = document := by
  obtain ⟨key, text, modified, hkey, htext, hmodified, rfl⟩ := h
  obtain ⟨key', text', modified', hkey', htext', hmodified', rfl⟩ := h'
  obtain rfl := Except.ok.inj (hkey.symm.trans hkey')
  obtain rfl := Option.some.inj (Except.ok.inj (htext.symm.trans htext'))
  obtain rfl := Option.some.inj (Except.ok.inj (hmodified.symm.trans hmodified'))
  rfl

end Disk

namespace DocumentCache

/-! ## Histories -/

/-- A call of a cache. -/
inductive Call where
  | load (path : String)
  | search (path pattern : String) (options : SearchOptions)
  | contextWindow (path file : String) (line before after : Nat)
  | invalidate (path : String)
  | contains (path : String)

/-- The location whose document a call loads. -/
def Call.location? : Call → Option String
  | .load path | .search path .. | .contextWindow path .. => some path
  | .invalidate _ | .contains _ => none

/-- The cache after a call. -/
def Call.run [Regexes] (c : DocumentCache) (disk : Disk) : Call → DocumentCache
  | .load path => (c.load disk path).2
  | .search path pattern options => (c.search disk path pattern options).2
  | .contextWindow path file line before after =>
    (c.contextWindow disk path file line before after).2
  | .invalidate path => (c.invalidate disk path).2
  | .contains _ => c

/-- Whether a call loads a document, and gets it. -/
def Call.succeeds (c : DocumentCache) (disk : Disk) (call : Call) : Bool :=
  call.location?.any fun path => (c.load disk path).1.isOk

/-- Calls, each with the disk at its moment. -/
abbrev History := List (Disk × Call)

/-- The cache after a history. -/
def after [Regexes] (c : DocumentCache) (history : History) : DocumentCache :=
  history.foldl (fun c step => step.2.run c step.1) c

/-- How many calls of a history load a document and get it. -/
def successes [Regexes] (c : DocumentCache) : History → Nat
  | [] => 0
  | (disk, call) :: rest =>
    (if call.succeeds c disk then 1 else 0) + successes (call.run c disk) rest

variable {c : DocumentCache} {disk : Disk} {call : Call} {path key : String}

/-- **What a call does.** It loads a document, forgets one, or leaves the cache alone. -/
theorem Call.run_cases [Regexes] (c : DocumentCache) (disk : Disk) (call : Call) :
    (∃ path, call.location? = some path ∧ call.run c disk = (c.load disk path).2) ∨
    (call.location? = none ∧
      (call.run c disk = c ∨ ∃ path, call.run c disk = (c.invalidate disk path).2)) := by
  cases call with
  | load path => exact .inl ⟨path, rfl, rfl⟩
  | search path pattern options => exact .inl ⟨path, rfl, rfl⟩
  | contextWindow path file line before after => exact .inl ⟨path, rfl, rfl⟩
  | invalidate path => exact .inr ⟨rfl, .inr ⟨path, rfl⟩⟩
  | contains path => exact .inr ⟨rfl, .inl rfl⟩

/-! ## The counters -/

theorem Call.count [Regexes] (c : DocumentCache) (disk : Disk) (call : Call) :
    (call.run c disk).hits + (call.run c disk).parses =
      c.hits + c.parses + if call.succeeds c disk then 1 else 0 := by
  rcases call.run_cases c disk with ⟨path, hpath, hrun⟩ | ⟨hnone, hrun | ⟨path, hrun⟩⟩
  · rw [hrun, succeeds, hpath]
    exact (c.loads disk path).count
  -- what loads nothing does not count
  · rw [hrun, succeeds, hnone]
    rfl
  · rw [hrun, succeeds, hnone]
    rfl

theorem count_after [Regexes] (c : DocumentCache) (history : History) :
    (c.after history).hits + (c.after history).parses =
      c.hits + c.parses + c.successes history := by
  induction history generalizing c with
  | nil => rfl
  | cons step history ih =>
    obtain ⟨disk, call⟩ := step
    have hstep := call.count c disk
    have hrest := ih (call.run c disk)
    rw [successes]
    show ((call.run c disk).after history).hits + ((call.run c disk).after history).parses = _
    omega

/-! ## The invariant -/

/-- Every entry tells what the file of its path said at its time, on one of the disks that were
seen. -/
structure Remembers (seen : List Disk) (c : DocumentCache) : Prop where
  distinct : c.recent.Distinct
  read : ∀ key entry, c.recent.get? key = some entry → ∃ d ∈ seen, ∃ text,
    d.node? key = some (.file (some text) entry.modified) ∧ '\x00' ∉ key.toList ∧
      entry.handle.document = Document.parse key entry.modified text

variable {seen : List Disk}

theorem remembers_ofCapacity (seen : List Disk) (capacity : Nat) :
    Remembers seen (ofCapacity capacity) :=
  ⟨Recent.distinct_ofCapacity capacity, nofun⟩

/-- Using entries does not change what they tell. -/
theorem Remembers.used (h : Remembers seen c) (key : String) : Remembers seen (c.used key) where
  distinct := h.distinct.touch key
  read other entry hentry := h.read other entry ((Recent.get?_touch ..).symm.trans hentry)

theorem Loads.remembers {r : Except SnapshotError Handle} {c' : DocumentCache}
    (hloads : c.Loads disk path r c') (h : Remembers seen c) (hdisk : disk ∈ seen) :
    Remembers seen c' := by
  cases hloads with
  | missing e absent => exact h
  | unreadable e key canonical unread => exact h.used key
  | found key entry canonical entry_eq modified => exact ⟨(h.used key).1, (h.used key).2⟩
  | parsed key text modified canonical content modified_eq stale =>
    refine ⟨(h.used key).distinct.put key _, fun other entry hentry => ?_⟩
    by_cases hother : other = key
    · -- the new entry is of this disk
      subst hother
      obtain rfl := Option.some.inj ((Recent.get?_put_self ..).symm.trans hentry)
      obtain ⟨hnul, time, hnode⟩ := (Disk.read?_eq_ok_iff canonical).1 content
      have htime := Disk.modified?_eq_some_iff.2 ⟨some text, hnode⟩
      obtain rfl := Option.some.inj (Except.ok.inj (modified_eq.symm.trans htime))
      exact ⟨disk, hdisk, text, hnode, hnul, rfl⟩
    · exact (h.used key).read other entry (Recent.get?_of_get?_put hentry hother)

/-- **One call** keeps the invariant. -/
theorem Remembers.run [Regexes] (h : Remembers seen c) (hdisk : disk ∈ seen) (call : Call) :
    Remembers seen (call.run c disk) := by
  rcases call.run_cases c disk with ⟨path, -, hrun⟩ | ⟨-, hrun | ⟨path, hrun⟩⟩
  · rw [hrun]
    exact (c.loads disk path).remembers h hdisk
  · rwa [hrun]
  · rw [hrun]
    refine ⟨h.distinct.erase _, fun key entry hentry => h.read key entry ?_⟩
    rw [invalidate, Recent.get?_erase] at hentry
    split at hentry
    · cases hentry
    · exact hentry

theorem Remembers.after [Regexes] (h : Remembers seen c) {history : History}
    (hseen : ∀ step ∈ history, step.1 ∈ seen) : Remembers seen (c.after history) := by
  induction history generalizing c with
  | nil => exact h
  | cons step history ih =>
    obtain ⟨hstep, hhistory⟩ := List.forall_mem_cons.1 hseen
    exact ih (h.run hstep step.2) hhistory

/-! ## What a load gives -/

/-- A document that is given out is the one that the disk shows: it was kept for a file of the time
that the file has now, and so it says what the file says now. -/
theorem Loads.shows {handle : Handle} {c' : DocumentCache}
    (hloads : c.Loads disk path (.ok handle) c') (h : Remembers seen c)
    (htimes : Disk.TimesTell seen) (hdisk : disk ∈ seen) : disk.Shows path handle.document := by
  cases hloads with
  | found key entry canonical entry_eq modified =>
    obtain ⟨d, hd, text, hnode, hnul, hdocument⟩ := h.read key entry entry_eq
    obtain ⟨text', hnode'⟩ := Disk.modified?_eq_some_iff.1 modified
    -- the file had this time when the entry was read, and so this text
    obtain rfl := htimes d hd disk hdisk key (some text) text' entry.modified hnode hnode'
    have hread := (Disk.read?_eq_ok_iff canonical).2 ⟨hnul, entry.modified, hnode'⟩
    exact ⟨key, text, entry.modified, canonical, hread, modified, hdocument⟩
  | parsed key text modified canonical content modified_eq stale =>
    exact ⟨key, text, modified, canonical, content, modified_eq, rfl⟩

/-- A file that shows a document is loaded. -/
theorem Loads.exists_ok {r : Except SnapshotError Handle} {c' : DocumentCache} {document : Document}
    (hloads : c.Loads disk path r c') (h : disk.Shows path document) : ∃ handle, r = .ok handle := by
  obtain ⟨key, text, modified, hkey, htext, hmodified, -⟩ := h
  cases hloads with
  | missing e absent => exact absurd hmodified (absent key _ hkey)
  | unreadable e key' canonical unread =>
    obtain rfl := Except.ok.inj (hkey.symm.trans canonical)
    exact absurd htext (unread text)
  | found key entry canonical entry_eq modified => exact ⟨_, rfl⟩
  | parsed key text modified canonical content modified_eq stale => exact ⟨_, rfl⟩

/-- **What a load gives** is what the disk shows. -/
theorem Remembers.shows_iff (h : Remembers seen c) (htimes : Disk.TimesTell seen)
    (hdisk : disk ∈ seen) (document : Document) :
    (∃ handle, (c.load disk path).1 = .ok handle ∧ handle.document = document) ↔
      disk.Shows path document := by
  have hloads := c.loads disk path
  constructor
  · rintro ⟨handle, hload, rfl⟩
    rw [hload] at hloads
    exact hloads.shows h htimes hdisk
  · intro hshows
    obtain ⟨handle, hload⟩ := hloads.exists_ok hshows
    rw [hload] at hloads
    exact ⟨handle, hload, hshows.unique (hloads.shows h htimes hdisk)⟩

/-! ## Files that do not change -/

/-- A file has one time all through a history, and its document is in the cache all the while. -/
structure Keeps [Regexes] (c : DocumentCache) (key : String) (modified : Nat) (history : History) :
    Prop where
  unchanged : ∀ step ∈ history, step.1.modified? key = .ok (some modified)
  kept : ∀ front, front <+: history → (c.after front).recent.contains key = true

/-- **One call** leaves the entry of an unchanged file as it is, unless it removes it. -/
theorem get?_run [Regexes] {entry : CachedDocument} (hentry : c.recent.get? key = some entry)
    (hmodified : disk.modified? key = .ok (some entry.modified))
    (hkept : (call.run c disk).recent.contains key = true) :
    (call.run c disk).recent.get? key = some entry := by
  obtain ⟨entry', hentry'⟩ := Option.isSome_iff_exists.1 hkept
  rw [hentry']
  rcases call.run_cases c disk with ⟨path, -, hrun⟩ | ⟨-, hrun | ⟨path, hrun⟩⟩
  · -- a load could replace the entry only by one of another time
    rw [hrun] at hentry'
    exact congrArg some ((c.loads disk path).get?_of_unchanged hentry hmodified hentry')
  · rw [hrun] at hentry'
    exact hentry'.symm.trans hentry
  · rw [hrun, invalidate, Recent.get?_erase] at hentry'
    split at hentry'
    · cases hentry'
    · exact hentry'.symm.trans hentry

theorem Keeps.get?_after [Regexes] {entry : CachedDocument} {history : History}
    (h : c.Keeps key entry.modified history) (hentry : c.recent.get? key = some entry) :
    (c.after history).recent.get? key = some entry := by
  induction history generalizing c with
  | nil => exact hentry
  | cons step history ih =>
    obtain ⟨hstep, hhistory⟩ := List.forall_mem_cons.1 h.unchanged
    have hfirst : (step.2.run c step.1).recent.contains key = true :=
      h.kept [step] (List.prefix_append [step] history)
    -- the rest of the history is one from the cache after its first call
    have hrest : (step.2.run c step.1).Keeps key entry.modified history :=
      ⟨hhistory, fun front hfront => h.kept (step :: front) (List.prefix_cons_inj step |>.2 hfront)⟩
    exact ih hrest (get?_run hentry hstep hfirst)

/-! ## All histories -/

/-- **A cache is fresh.** After every history of a cache, on disks where times tell contents apart: a
load gives what the disk shows now, and fails if it shows nothing; the counters add up to the loads
that gave something; a load that fails leaves the entries and the counters as they are; and of an
unchanged file that is kept, the same document is given again without another parse. -/
theorem cache_fresh [Regexes] (capacity : Nat) (history : History) (disk : Disk) (path : String)
    (htimes : Disk.TimesTell (disk :: history.map (·.1))) :
    let c := (ofCapacity capacity).after history
    let c' := (c.load disk path).2
    (∀ document, (∃ handle, (c.load disk path).1 = .ok handle ∧ handle.document = document) ↔
      disk.Shows path document) ∧
    c.hits + c.parses = (ofCapacity capacity).successes history ∧
    (∀ e, (c.load disk path).1 = .error e →
      c'.recent.entries.Perm c.recent.entries ∧ c'.hits = c.hits ∧ c'.parses = c.parses) ∧
    (∀ handle key modified, (c.load disk path).1 = .ok handle →
      disk.canonical? path = .ok key → disk.modified? key = .ok (some modified) →
      ∀ between, c'.Keeps key modified between → ∀ disk' path',
        disk'.canonical? path' = .ok key → disk'.modified? key = .ok (some modified) →
        let again := (c'.after between).load disk' path'
        again.1 = .ok handle ∧ again.2.parses = (c'.after between).parses ∧
          again.2.hits = (c'.after between).hits + 1) := by
  intro c c'
  have hseen : ∀ step ∈ history, step.1 ∈ disk :: history.map (·.1) := fun step hstep =>
    List.mem_cons_of_mem disk (List.mem_map_of_mem hstep)
  -- the disk of the load counts as seen, so that its times tell, too
  have hremembers : Remembers (disk :: history.map (·.1)) c :=
    (remembers_ofCapacity _ capacity).after hseen
  refine ⟨?_, ?_, ?_, ?_⟩
  · exact hremembers.shows_iff htimes (List.mem_cons_self ..)
  · have hcount := count_after (ofCapacity capacity) history
    exact hcount.trans (Nat.zero_add _)
  · intro e hload
    have hloads := c.loads disk path
    rw [hload] at hloads
    exact hloads.of_error hremembers.distinct
  · intro handle key modified hload hpath hmodified between hbetween disk' path' hpath' hmodified'
    have hloads := c.loads disk path
    rw [hload] at hloads
    have hentry := hloads.get?_of_ok hpath hmodified
    have hkept := hbetween.get?_after hentry
    intro again
    have hagain : again = _ := load_of_unchanged hpath' hmodified' hkept
    rw [hagain]
    exact ⟨rfl, rfl, rfl⟩

/-- A file that is written anew while its document is kept. -/
theorem cache_fresh_behind_rewrite :
    let before := ({} : Disk).put "/a" (.file (some "x") 1)
    let disk := ({} : Disk).put "/a" (.file (some "y") 2)
    let history : History := [(before, .load "/a"), (disk, .contains "/a")]
    let c := (ofCapacity 1).after history
    let c' := (c.load disk "/a").2
    Disk.TimesTell (disk :: history.map (·.1)) ∧ c.hits + c.parses = 1 ∧
    ∃ handle, (c.load disk "/a").1 = .ok handle ∧
      handle.document = Document.parse "/a" 2 "y" ∧
      (c'.load disk "/a").1 = .ok handle ∧ (c'.load disk "/a").2.parses = c'.parses := by
  intro before disk history c c'
  have htimes : Disk.TimesTell (disk :: history.map (·.1)) := by
    -- the two texts have different times
    have hnode : ∀ d ∈ disk :: history.map (·.1), ∀ key text modified,
        d.node? key = some (.file text modified) →
          modified = 1 ∧ text = some "x" ∨ modified = 2 ∧ text = some "y" := by
      intro d hd key text modified h
      rw [Disk.node?] at h
      split at h
      · cases h
      have hd : d = disk ∨ d = before ∨ d = disk := by simpa [history] using hd
      have hd : d = before ∨ d = disk := hd.elim .inr id
      by_cases hkey : key = "/a"
      · subst hkey
        rcases hd with rfl | rfl
        · cases (StringMap.get?_insert_self ..).symm.trans h
          exact .inl ⟨rfl, rfl⟩
        · cases (StringMap.get?_insert_self ..).symm.trans h
          exact .inr ⟨rfl, rfl⟩
      · rcases hd with rfl | rfl
        · cases (StringMap.get?_insert_ne _ _ hkey).symm.trans h
        · cases (StringMap.get?_insert_ne _ _ hkey).symm.trans h
    intro d hd d' hd' key text text' modified h h'
    rcases hnode d hd key text modified h with ⟨rfl, rfl⟩ | ⟨rfl, rfl⟩
    · rcases hnode d' hd' key text' 1 h' with ⟨-, rfl⟩ | ⟨heq, -⟩
      · rfl
      · cases heq
    · rcases hnode d' hd' key text' 2 h' with ⟨heq, -⟩ | ⟨-, rfl⟩
      · cases heq
      · rfl
  have hcanonical : (({} : Disk).put "/a" (.file (some "y") 2)).canonical? "/a" = .ok "/a" := rfl
  have hmodified : (({} : Disk).put "/a" (.file (some "y") 2)).modified? "/a" = .ok (some 2) := rfl
  have hread : (({} : Disk).put "/a" (.file (some "y") 2)).read? "/a" = .ok (some "y") := rfl
  have hsuccesses : (ofCapacity 1).successes
      [(({} : Disk).put "/a" (.file (some "x") 1), .load "/a"),
        (({} : Disk).put "/a" (.file (some "y") 2), .contains "/a")] = 1 := rfl
  obtain ⟨hshows, hcount, -, hunchanged⟩ := cache_fresh 1 history disk "/a" htimes
  obtain ⟨handle, hload, hdocument⟩ :=
    (hshows _).2 ⟨"/a", "y", 2, hcanonical, hread, hmodified, rfl⟩
  have hkeeps : c'.Keeps "/a" 2 [] := by
    refine ⟨nofun, fun front hfront => ?_⟩
    obtain rfl := List.prefix_nil.1 hfront
    have hloads := c.loads disk "/a"
    rw [hload] at hloads
    have hentry := hloads.get?_of_ok hcanonical hmodified
    exact congrArg Option.isSome hentry
  obtain ⟨hagain, hparses, -⟩ := hunchanged handle "/a" 2 hload hcanonical hmodified [] hkeeps disk
    "/a" hcanonical hmodified
  exact ⟨htimes, hcount.trans hsuccesses, handle, hload, hdocument, hagain, hparses⟩

end DocumentCache

end CodeSnapshot

import CodeSnapshot.Engine
import CodeSnapshot.Proofs.Cache.Freshness

/-!
# Remembered projects — a project is given out only for the document that it describes

An engine keeps documents and projects in two memories, both bounded, and each forgets without
asking the other. Several engines may share a cache of documents, so that it changes between two
requests of one of them. A project is found by the path of its document, and is given out again only
if it was worked out from the same parse.

* **`DocumentCache.Logged`** — the documents of a cache by the numbers of their parses. A call only
  adds to that log: `Loads.logged`, `Call.logged`.
* **`ProjectMemo.Describes`** — what is remembered for a parse is the project of the document that
  the log has for it; `Describes.projectOf` is the step.
* **`Engines`** — engines and the caches that they use, and `Engines.Request`, what can be asked of
  them; `Recorded.run` and `recorded_after` carry both invariants through all requests.
* **`structural_describes`** — the headline, for all capacities, however caches are shared.
-/

namespace CodeSnapshot

/-! ## Documents by number -/

namespace DocumentCache

/-- The cache has parsed the documents of a log, in this order, and every handle that it keeps has
the number of its document. -/
structure Logged (log : List Document) (c : DocumentCache) : Prop where
  parses : c.parses = log.length
  kept : ∀ key entry, c.recent.get? key = some entry →
    log[entry.handle.serial]? = some entry.handle.document

variable {log : List Document} {c : DocumentCache} {disk : Disk} {path : String}

/-- A longer log has the same documents under the same numbers. -/
theorem getElem?_log {number : Nat} {document : Document} (h : log[number]? = some document)
    (more : List Document) : (log ++ more)[number]? = some document := by
  obtain ⟨hlt, -⟩ := List.getElem?_eq_some_iff.1 h
  rw [List.getElem?_append_left hlt, h]

theorem logged_ofCapacity (capacity : Nat) : (ofCapacity capacity).Logged [] :=
  ⟨rfl, nofun⟩

theorem Logged.used (h : c.Logged log) (key : String) : (c.used key).Logged log :=
  ⟨h.parses, fun other entry hentry =>
    h.kept other entry ((Recent.get?_touch ..).symm.trans hentry)⟩

theorem Logged.invalidate (h : c.Logged log) (disk : Disk) (path : String) :
    (c.invalidate disk path).2.Logged log := by
  refine ⟨h.parses, fun key entry hentry => h.kept key entry ?_⟩
  rw [DocumentCache.invalidate, Recent.get?_erase] at hentry
  split at hentry
  · cases hentry
  · exact hentry

/-- **A load** adds one document to the log or none, and gives a document under its number. -/
theorem Loads.logged {r : Except SnapshotError Handle} {c' : DocumentCache}
    (hloads : c.Loads disk path r c') (h : c.Logged log) :
    ∃ more, c'.Logged (log ++ more) ∧
      ∀ handle, r = .ok handle → (log ++ more)[handle.serial]? = some handle.document := by
  cases hloads with
  | missing e absent => exact ⟨[], by rwa [List.append_nil], nofun⟩
  | unreadable e key canonical unread =>
    exact ⟨[], by rw [List.append_nil]; exact h.used key, nofun⟩
  | found key entry canonical entry_eq modified =>
    refine ⟨[], ?_, ?_⟩
    · rw [List.append_nil]
      exact ⟨h.parses, (h.used key).kept⟩
    · rintro handle ⟨⟩
      rw [List.append_nil]
      exact h.kept key entry entry_eq
  | parsed key text modified canonical content modified_eq stale =>
    -- the new document has the next number, and the older ones keep theirs
    have hnew : (log ++ [Document.parse key modified text])[c.parses]? =
        some (Document.parse key modified text) := by
      rw [h.parses, List.getElem?_concat_length]
    refine ⟨[Document.parse key modified text], ⟨?_, fun other entry hentry => ?_⟩, ?_⟩
    · rw [List.length_append, ← h.parses]
      rfl
    · by_cases hother : other = key
      · subst hother
        obtain rfl := Option.some.inj ((Recent.get?_put_self ..).symm.trans hentry)
        exact hnew
      · have hold := (h.used key).kept other entry (Recent.get?_of_get?_put hentry hother)
        exact getElem?_log hold _
    · rintro handle ⟨⟩
      exact hnew

theorem Call.logged [Regexes] (h : c.Logged log) (disk : Disk) (call : Call) :
    ∃ more, (call.run c disk).Logged (log ++ more) := by
  rcases call.run_cases c disk with ⟨path, -, hrun⟩ | ⟨-, hrun | ⟨path, hrun⟩⟩
  · obtain ⟨more, hmore, -⟩ := (c.loads disk path).logged h
    exact ⟨more, hrun ▸ hmore⟩
  · exact ⟨[], by rwa [List.append_nil, hrun]⟩
  · exact ⟨[], by rw [List.append_nil, hrun]; exact h.invalidate disk path⟩

end DocumentCache

/-! ## Projects by the number of their document -/

namespace ProjectMemo

/-- What is remembered for a parse is the project of the document that the log has for it. -/
def Describes (log : List Document) (m : ProjectMemo) : Prop :=
  ∀ path entry, m.recent.get? path = some entry →
    ∃ document, log[entry.parse]? = some document ∧
      entry.handle.project = Project.ofDocument document

variable {log : List Document} {m : ProjectMemo} {h : Handle}

theorem describes_ofCapacity (log : List Document) (capacity : Nat) :
    (ofCapacity capacity).Describes log := nofun

theorem Describes.append (hm : m.Describes log) (more : List Document) :
    m.Describes (log ++ more) := by
  intro path entry hentry
  obtain ⟨document, hdocument, hproject⟩ := hm path entry hentry
  exact ⟨document, DocumentCache.getElem?_log hdocument more, hproject⟩

theorem Describes.touch (hm : m.Describes log) (path : String) :
    ({ m with recent := m.recent.touch path } : ProjectMemo).Describes log :=
  fun other entry hentry => hm other entry ((Recent.get?_touch ..).symm.trans hentry)

theorem Describes.build (hm : m.Describes log) (hlog : log[h.serial]? = some h.document) :
    (m.build h).2.Describes log := by
  intro path entry hentry
  by_cases hpath : path = h.document.path
  · subst hpath
    obtain rfl := Option.some.inj ((Recent.get?_put_self ..).symm.trans hentry)
    exact ⟨h.document, hlog, rfl⟩
  · exact hm path entry (Recent.get?_of_get?_put hentry hpath)

/-- **Asking for a project** gives that of the document, be it remembered or worked out. -/
theorem Describes.projectOf (hm : m.Describes log) (hlog : log[h.serial]? = some h.document) :
    (m.projectOf h).1.project = Project.ofDocument h.document ∧
      (m.projectOf h).2.Describes log := by
  rw [ProjectMemo.projectOf]
  split
  · rename_i entry hentry
    have hused := hm.touch h.document.path
    split
    · rename_i hsame
      -- one number stands for one document
      obtain ⟨document, hdocument, hproject⟩ := hm _ entry hentry
      obtain rfl := Option.some.inj ((hsame ▸ hdocument).symm.trans hlog)
      exact ⟨hproject, hused⟩
    · exact ⟨rfl, hused.build hlog⟩
  · exact ⟨rfl, hm.build hlog⟩

end ProjectMemo

/-! ## Engines that share caches -/

/-- Engines and caches, both by number. An engine has a memory of projects of its own, and uses a
cache that others may use, too. -/
structure Engines where
  caches : Nat → DocumentCache
  memos : Nat → ProjectMemo
  configs : Nat → EngineConfig
  cacheOf : Nat → Nat

namespace Engines

/-- Engines that were not asked anything yet. -/
def start (capacities : Nat → Nat) (configs : Nat → EngineConfig) (cacheOf : Nat → Nat) :
    Engines where
  caches i := .ofCapacity (capacities i)
  memos k := (Engine.withCache (.ofCapacity (capacities (cacheOf k))) (configs k)).memo
  configs := configs
  cacheOf := cacheOf

/-- An engine as it is at the moment. -/
def engine (s : Engines) (k : Nat) : Engine :=
  ⟨s.caches (s.cacheOf k), s.memos k, s.configs k⟩

def setCache (s : Engines) (i : Nat) (c : DocumentCache) : Engines :=
  { s with caches := fun j => if j = i then c else s.caches j }

def setMemo (s : Engines) (k : Nat) (m : ProjectMemo) : Engines :=
  { s with memos := fun j => if j = k then m else s.memos j }

/-- An engine was asked something: its cache and its memory are new. -/
def setEngine (s : Engines) (k : Nat) (e : Engine) : Engines :=
  (s.setCache (s.cacheOf k) e.cache).setMemo k e.memo

/-- What is asked of an engine, or of a cache without an engine. -/
inductive Request where
  | structural (engine : Nat) (path : String)
  | load (engine : Nat) (path : String)
  | analyze (engine : Nat) (path query : String) (limits : SessionLimits) (model : Session.Model)
  | call (cache : Nat) (call : DocumentCache.Call)

def Request.run [Regexes] [Sorting] (s : Engines) (disk : Disk) : Request → Engines
  | .structural k path => s.setEngine k ((s.engine k).structural disk path).2
  | .load k path => s.setEngine k ((s.engine k).load disk path).2
  | .analyze k path query limits model =>
    s.setEngine k ((s.engine k).analyze disk path query limits model).2
  | .call i asked => s.setCache i (asked.run (s.caches i) disk)

/-- The engines after some requests, each with the disk at its moment. -/
def after [Regexes] [Sorting] (s : Engines) (history : List (Disk × Request)) : Engines :=
  history.foldl (fun s step => step.2.run s step.1) s

/-- Every cache has its log, and the memories of its engines describe the documents of that log. -/
structure Recorded (logs : Nat → List Document) (s : Engines) : Prop where
  caches : ∀ i, (s.caches i).Logged (logs i)
  memos : ∀ k, (s.memos k).Describes (logs (s.cacheOf k))

variable {s : Engines} {logs : Nat → List Document}

theorem recorded_start (capacities : Nat → Nat) (configs : Nat → EngineConfig)
    (cacheOf : Nat → Nat) : (start capacities configs cacheOf).Recorded fun _ => [] where
  caches i := DocumentCache.logged_ofCapacity (capacities i)
  memos k := ProjectMemo.describes_ofCapacity [] (configs k).cacheCapacity

/-- A cache has parsed some more documents. Whatever its engines remember is still right. -/
theorem Recorded.setCache (h : s.Recorded logs) {i : Nat} {c : DocumentCache}
    {more : List Document} (hc : c.Logged (logs i ++ more)) :
    (s.setCache i c).Recorded fun j => if j = i then logs i ++ more else logs j := by
  constructor
  · intro j
    by_cases hj : j = i
    · simpa only [Engines.setCache, if_pos hj] using hc
    · simpa only [Engines.setCache, if_neg hj] using h.caches j
  · intro k
    by_cases hk : s.cacheOf k = i
    · subst hk
      simpa only [Engines.setCache, if_pos] using (h.memos k).append more
    · show (s.memos k).Describes (if s.cacheOf k = i then logs i ++ more else logs (s.cacheOf k))
      rw [if_neg hk]
      exact h.memos k

theorem Recorded.setMemo (h : s.Recorded logs) {k : Nat} {m : ProjectMemo}
    (hm : m.Describes (logs (s.cacheOf k))) : (s.setMemo k m).Recorded logs := by
  refine ⟨h.caches, fun j => ?_⟩
  by_cases hj : j = k
  · subst hj
    simpa only [Engines.setMemo, if_pos] using hm
  · simpa only [Engines.setMemo, if_neg hj] using h.memos j

theorem Recorded.setEngine (h : s.Recorded logs) {k : Nat} {e : Engine} {more : List Document}
    (hcache : e.cache.Logged (logs (s.cacheOf k) ++ more))
    (hmemo : e.memo.Describes (logs (s.cacheOf k) ++ more)) :
    ∃ logs', (s.setEngine k e).Recorded logs' := by
  refine ⟨_, (h.setCache hcache).setMemo ?_⟩
  simpa only [Engines.setCache, if_pos] using hmemo

/-- Loading a document through an engine: what it gives is in the log under its number. -/
theorem Recorded.load (h : s.Recorded logs) (k : Nat) (disk : Disk) (path : String) :
    ∃ more, ((s.engine k).load disk path).2.cache.Logged (logs (s.cacheOf k) ++ more) ∧
      ((s.engine k).load disk path).2.memo.Describes (logs (s.cacheOf k) ++ more) ∧
      ∀ handle, ((s.engine k).load disk path).1 = .ok handle →
        (logs (s.cacheOf k) ++ more)[handle.serial]? = some handle.document := by
  obtain ⟨more, hlogged, hhandle⟩ :=
    ((s.caches (s.cacheOf k)).loads disk path).logged (h.caches (s.cacheOf k))
  exact ⟨more, hlogged, (h.memos k).append more, hhandle⟩

/-- **Asking about the structure** of a snapshot. -/
theorem Recorded.structural (h : s.Recorded logs) (k : Nat) (disk : Disk) (path : String) :
    (∃ logs', (s.setEngine k ((s.engine k).structural disk path).2).Recorded logs') ∧
      ((s.engine k).structural disk path).1.map (fun q => (q.document, q.project.project)) =
        ((s.engine k).load disk path).1.map fun handle =>
          (handle.document, Project.ofDocument handle.document) := by
  obtain ⟨more, hcache, hmemo, hhandle⟩ := h.load k disk path
  rw [Engine.structural]
  generalize (s.engine k).load disk path = loaded at hcache hmemo hhandle
  obtain ⟨r, e⟩ := loaded
  cases r with
  | error err => exact ⟨h.setEngine hcache hmemo, rfl⟩
  | ok handle =>
    obtain ⟨hproject, hmemo'⟩ := hmemo.projectOf (hhandle handle rfl)
    refine ⟨h.setEngine hcache hmemo', ?_⟩
    show Except.ok (handle.document, (e.memo.projectOf handle).1.project) = _
    rw [hproject]
    rfl

theorem analyze_snd [Regexes] [Sorting] (e : Engine) (disk : Disk) (path query : String)
    (limits : SessionLimits) (model : Session.Model) :
    (e.analyze disk path query limits model).2 = (e.load disk path).2 := by
  rw [Engine.analyze]
  generalize e.load disk path = loaded
  obtain ⟨r, e⟩ := loaded
  cases r <;> rfl

/-- **One request** keeps the logs and what the memories say of them. -/
theorem Recorded.run [Regexes] [Sorting] (h : s.Recorded logs) (disk : Disk) (request : Request) :
    ∃ logs', (request.run s disk).Recorded logs' := by
  cases request with
  | structural k path => exact (h.structural k disk path).1
  | load k path =>
    obtain ⟨more, hcache, hmemo, -⟩ := h.load k disk path
    exact h.setEngine hcache hmemo
  | analyze k path query limits model =>
    obtain ⟨more, hcache, hmemo, -⟩ := h.load k disk path
    rw [Request.run, analyze_snd]
    exact h.setEngine hcache hmemo
  | call i call =>
    obtain ⟨more, hmore⟩ := DocumentCache.Call.logged (h.caches i) disk call
    exact ⟨_, h.setCache hmore⟩

theorem recorded_after [Regexes] [Sorting] (h : s.Recorded logs) (history : List (Disk × Request)) :
    ∃ logs', (s.after history).Recorded logs' := by
  induction history generalizing s logs with
  | nil => exact ⟨logs, h⟩
  | cons step history ih =>
    obtain ⟨logs', hnext⟩ := h.run step.1 step.2
    exact ih hnext

/-- **A project describes its document.** Whatever the capacities, whoever shares a cache, and after
all requests and all changes of the disk: what an engine answers about the structure of a snapshot
has the project of the very document that it has. This document is the one that the engine loads at
that moment, and there is an answer exactly if there is such a document. -/
theorem structural_describes [Regexes] [Sorting] (capacities : Nat → Nat)
    (configs : Nat → EngineConfig) (cacheOf : Nat → Nat) (history : List (Disk × Request)) (k : Nat)
    (disk : Disk) (path : String) :
    let e := ((start capacities configs cacheOf).after history).engine k
    (∀ q, (e.structural disk path).1 = .ok q →
      q.project.project = Project.ofDocument q.document) ∧
    (e.structural disk path).1.map (fun q => (q.document, q.project.project)) =
      (e.load disk path).1.map fun handle =>
        (handle.document, Project.ofDocument handle.document) := by
  intro e
  obtain ⟨logs, hlogs⟩ := recorded_after (recorded_start capacities configs cacheOf) history
  obtain ⟨-, hanswer⟩ := hlogs.structural k disk path
  refine ⟨fun q hq => ?_, hanswer⟩
  rw [show ((start capacities configs cacheOf).after history).engine k = e from rfl, hq] at hanswer
  cases hload : (e.load disk path).1 with
  | error err =>
    rw [hload] at hanswer
    cases hanswer
  | ok handle =>
    rw [hload] at hanswer
    obtain ⟨hdocument, hproject⟩ := Prod.mk.inj (Except.ok.inj hanswer)
    rw [hproject, hdocument]

end Engines

end CodeSnapshot

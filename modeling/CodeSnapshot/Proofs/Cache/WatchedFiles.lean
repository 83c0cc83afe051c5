import CodeSnapshot.Cache.Watch
import CodeSnapshot.Proofs.Cache.Invalidation
import CodeSnapshot.Proofs.Disk.StraightPaths
import CodeSnapshot.Proofs.Sorted.SetMembers

/-!
# Watched files — the list, the registered directories and the cache stay in step

Files are watched and unwatched in any order, while they are made, changed and removed. What is
registered with the system are their directories, each for all of its files.

* **`Watch.InStep`** — a directory is registered exactly when one of its files is listed;
  `exists_add` and `remove_of_denotes` tell what listing a file and taking it off does, and keep that.
* **`Event`**, **`after`** — a history of a watch and a cache, each event with the disk as it is at
  that moment.
* **`LastWatched`** — the last call for a file watches it.
* **`Tracks`** — the invariant: the list says what was asked for last. `Tracks.run` is the step,
  `Tracks.after` the run.
* **`watching_in_step`** — the headline, for all histories.
-/

namespace CodeSnapshot

namespace Watch

variable {w : Watch} {disk : Disk} {path key other directory : String}

/-- A directory is registered exactly when one of its files is listed. -/
def InStep (w : Watch) : Prop :=
  ∀ directory, directory ∈ w.registered ↔
    ∃ key ∈ w.listed, Location.parent? key = some directory

theorem pathOf?_of_denotes (h : disk.Denotes path key) : pathOf? disk path = .ok key := by
  obtain ⟨name, names, hname, hdirectory, rfl⟩ := h
  have hnames : ∀ other ∈ name :: names, Disk.IsEntryName other :=
    List.forall_mem_cons.2
      ⟨Disk.isEntryName_of_fileName? hname, hdirectory.settled.isEntryName⟩
  have hcanonical := hdirectory.canonical?_eq
  rw [Disk.directoryOf] at hcanonical
  rw [pathOf?, hname]
  simp only
  rw [hcanonical, ← Disk.join_pathOf hnames]

theorem covers_iff :
    w.covers directory = true ↔ ∃ key ∈ w.listed, Location.parent? key = some directory := by
  rw [covers, List.any_eq_true]
  simp only [beq_iff_eq]
  rfl

/-! ## Listing a file, and taking it off -/

theorem InStep.insert (h : w.InStep) (hparent : Location.parent? key = some directory) :
    InStep {
      listed := w.listed.insert key
      registered :=
        if w.covers directory then w.registered else w.registered.insert directory } := by
  intro place
  have hregistered : place ∈ (if w.covers directory then w.registered
      else w.registered.insert directory) ↔ place = directory ∨ place ∈ w.registered := by
    split
    · next hcovers =>
      -- another file of the directory is listed
      have hdirectory : directory ∈ w.registered := (h directory).2 (covers_iff.1 hcovers)
      exact ⟨.inr, fun hplace => hplace.elim (fun heq => heq ▸ hdirectory) id⟩
    · exact StringSet.mem_insert
  rw [hregistered, h place]
  constructor
  · rintro (rfl | ⟨other, hother, hplace⟩)
    · exact ⟨key, StringSet.mem_insert.2 (.inl rfl), hparent⟩
    · exact ⟨other, StringSet.mem_insert.2 (.inr hother), hplace⟩
  · rintro ⟨other, hother, hplace⟩
    rcases StringSet.mem_insert.1 hother with rfl | hother
    · exact .inl (Option.some.inj (hplace.symm.trans hparent))
    · exact .inr ⟨other, hother, hplace⟩

theorem InStep.erase (h : w.InStep) (hparent : Location.parent? key = some directory) :
    let rest := { w with listed := w.listed.erase key }
    InStep (if rest.covers directory then rest
      else { rest with registered := rest.registered.erase directory }) := by
  intro rest place
  have hrest : ∀ other, other ∈ rest.listed ↔ other ∈ w.listed ∧ other ≠ key := fun other =>
    StringSet.mem_erase
  split
  · next hcovers =>
    show place ∈ w.registered ↔ ∃ other ∈ rest.listed, Location.parent? other = some place
    rw [h place]
    constructor
    · rintro ⟨other, hother, hplace⟩
      by_cases hkey : other = key
      · -- one of the files of the directory is listed still
        obtain rfl : directory = place := Option.some.inj (hparent.symm.trans (hkey ▸ hplace))
        exact covers_iff.1 hcovers
      · exact ⟨other, (hrest other).2 ⟨hother, hkey⟩, hplace⟩
    · rintro ⟨other, hother, hplace⟩
      exact ⟨other, ((hrest other).1 hother).1, hplace⟩
  · next hcovers =>
    show place ∈ w.registered.erase directory ↔
      ∃ other ∈ rest.listed, Location.parent? other = some place
    rw [StringSet.mem_erase, h place]
    constructor
    · rintro ⟨⟨other, hother, hplace⟩, hne⟩
      refine ⟨other, (hrest other).2 ⟨hother, ?_⟩, hplace⟩
      rintro rfl
      exact hne (Option.some.inj (hplace.symm.trans hparent))
    · rintro ⟨other, hother, hplace⟩
      refine ⟨⟨other, ((hrest other).1 hother).1, hplace⟩, ?_⟩
      rintro rfl
      exact hcovers (covers_iff.2 ⟨other, hother, hplace⟩)

/-- **Listing a file** by one of its paths. -/
theorem exists_add (w : Watch) (h : disk.Denotes path key) :
    ∃ w', w.add disk path = .ok w' ∧ (∀ other, other ∈ w'.listed ↔ other = key ∨ other ∈ w.listed) ∧
      (w.InStep → w'.InStep) := by
  obtain ⟨directory, hparent⟩ := h.exists_parent?
  rw [add, pathOf?_of_denotes h, Except.map]
  simp only [hparent, Option.getD_some]
  by_cases hlisted : w.listed.contains key = true
  · refine ⟨w, by rw [if_pos hlisted], fun other => ⟨.inr, ?_⟩, id⟩
    rintro (rfl | hother)
    · exact StringSet.contains_iff.1 hlisted
    · exact hother
  · exact ⟨_, by rw [if_neg hlisted], fun other => StringSet.mem_insert, fun h => h.insert hparent⟩

/-- **Taking a file off** by one of its paths. -/
theorem remove_of_denotes (w : Watch) (h : disk.Denotes path key) :
    (∀ other, other ∈ (w.remove disk path).listed ↔ other ∈ w.listed ∧ other ≠ key) ∧
      (w.InStep → (w.remove disk path).InStep) := by
  obtain ⟨directory, hparent⟩ := h.exists_parent?
  unfold remove
  rw [pathOf?_of_denotes h]
  simp only [hparent]
  by_cases hlisted : w.listed.contains key = true
  · rw [if_neg (by simpa using hlisted)]
    refine ⟨fun other => ?_, fun h => h.erase hparent⟩
    split
    · exact StringSet.mem_erase
    · exact StringSet.mem_erase
  · rw [if_pos (by simpa using hlisted)]
    refine ⟨fun other => ⟨fun hother => ⟨hother, ?_⟩, And.left⟩, id⟩
    rintro rfl
    exact hlisted (StringSet.contains_iff.2 hother)

end Watch

/-! ## Histories -/

/-- A watch, and the cache that it looks after. -/
structure Watching where
  watch : Watch := {}
  cache : DocumentCache

namespace Watching

/-- What happens to a watch and its cache. -/
inductive Event where
  | watch (path : String)
  | unwatch (path : String)
  | call (call : DocumentCache.Call)
  /-- the file at a canonical path was made, changed or removed -/
  | changed (key : String)

/-- Whether the system tells of what happens to a file. -/
def hears (s : Watching) (key : String) : Bool :=
  (Location.parent? key).any s.watch.registered.contains

/-- The watch and the cache after an event. -/
def Event.run [Regexes] (s : Watching) (disk : Disk) : Event → Watching
  | .watch path =>
    match s.watch.add disk path with
    | .ok w => { s with watch := w }
    | .error _ => s
  | .unwatch path => { s with watch := s.watch.remove disk path }
  | .call c => { s with cache := c.run s.cache disk }
  | .changed key =>
    if s.hears key then { s with cache := s.watch.changed disk key s.cache } else s

/-- Events, each with the disk at its moment; between two of them the disk may change in any way. -/
abbrev History := List (Disk × Event)

/-- The watch and the cache after a history. -/
def after [Regexes] (s : Watching) (history : History) : Watching :=
  history.foldl (fun s step => step.2.run s step.1) s

variable {s : Watching} {disk : Disk} {path key other : String} {step : Disk × Event}
  {history done : History}

/-- A file is watched, or unwatched, by one of its paths. -/
def Asks (ask : String → Event) (step : Disk × Event) (key : String) : Prop :=
  ∃ path, step.2 = ask path ∧ step.1.Denotes path key

/-- Among the calls that watch or unwatch a file, the last one watches it. -/
def LastWatched (history : History) (key : String) : Prop :=
  ∃ before step later, history = before ++ step :: later ∧ Asks .watch step key ∧
    ∀ next ∈ later, ¬Asks .watch next key ∧ ¬Asks .unwatch next key

/-- One more event decides, unless it is about something else. -/
theorem lastWatched_concat : LastWatched (history ++ [step]) key ↔
    Asks .watch step key ∨ LastWatched history key ∧ ¬Asks .unwatch step key := by
  constructor
  · rintro ⟨before, first, later, hhistory, hfirst, hlater⟩
    rcases later.eq_nil_or_concat with rfl | ⟨front, last, rfl⟩
    · -- the call itself is the last event
      obtain ⟨-, hstep⟩ := List.append_inj' hhistory rfl
      exact .inl ((List.cons.inj hstep).1 ▸ hfirst)
    · rw [List.concat_eq_append] at hhistory hlater
      rw [← List.cons_append, ← List.append_assoc] at hhistory
      obtain ⟨hfront, hstep⟩ := List.append_inj' hhistory rfl
      obtain rfl := (List.cons.inj hstep).1
      obtain ⟨hfront', hlast⟩ := List.forall_mem_append.1 hlater
      exact .inr ⟨⟨before, first, front, hfront, hfirst, hfront'⟩,
        (hlast step (List.mem_singleton_self _)).2⟩
  · intro h
    by_cases hstep : Asks .watch step key
    · exact ⟨history, step, [], rfl, hstep, nofun⟩
    · obtain ⟨⟨before, first, later, rfl, hfirst, hlater⟩, hkept⟩ := h.resolve_left hstep
      refine ⟨before, first, later ++ [step], by simp, hfirst, ?_⟩
      exact List.forall_mem_append.2 ⟨hlater, List.forall_mem_singleton.2 ⟨hstep, hkept⟩⟩

/-! ## The invariant -/

/-- The list says what was asked for last, and the registered directories are those of the list. -/
structure Tracks (done : History) (w : Watch) : Prop where
  listed : ∀ key, key ∈ w.listed ↔ LastWatched done key
  inStep : w.InStep

theorem tracks_nil : Tracks [] {} where
  listed key := by
    refine ⟨fun hkey => absurd hkey StringSet.not_mem_empty, ?_⟩
    rintro ⟨before, step, later, hhistory, -⟩
    exact absurd hhistory (by simp)
  inStep directory := by
    refine ⟨fun hdirectory => absurd hdirectory StringSet.not_mem_empty, ?_⟩
    rintro ⟨key, hkey, -⟩
    exact absurd hkey StringSet.not_mem_empty

theorem eq_of_denotes (h : disk.Denotes path key) (h' : disk.Denotes path other) : other = key :=
  Except.ok.inj ((Watch.pathOf?_of_denotes h').symm.trans (Watch.pathOf?_of_denotes h))

theorem asks_iff {ask : String → Event}
    (hinj : ∀ {path path'}, ask path = ask path' → path = path') (h : disk.Denotes path key) :
    Asks ask (disk, ask path) other ↔ other = key := by
  constructor
  · rintro ⟨path', hevent, hother⟩
    obtain rfl := hinj hevent
    exact eq_of_denotes h hother
  · rintro rfl
    exact ⟨path, rfl, h⟩

namespace Tracks

theorem watch [Regexes] (h : Tracks done s.watch) (hpath : disk.Denotes path key) :
    Tracks (done ++ [(disk, .watch path)]) (Event.run s disk (.watch path)).watch := by
  obtain ⟨w, hadd, hlisted, hstep⟩ := s.watch.exists_add hpath
  have hrun : (Event.run s disk (.watch path)).watch = w := by rw [Event.run, hadd]
  rw [hrun]
  refine ⟨fun other => ?_, hstep h.inStep⟩
  have hnot : ¬Asks .unwatch (disk, .watch path) other := fun ⟨_, hevent, _⟩ => nomatch hevent
  rw [hlisted other, h.listed other, lastWatched_concat, asks_iff Event.watch.inj hpath,
    and_iff_left hnot]

theorem unwatch [Regexes] (h : Tracks done s.watch) (hpath : disk.Denotes path key) :
    Tracks (done ++ [(disk, .unwatch path)]) (Event.run s disk (.unwatch path)).watch := by
  obtain ⟨hlisted, hstep⟩ := s.watch.remove_of_denotes hpath
  have hrun : (Event.run s disk (.unwatch path)).watch = s.watch.remove disk path := by
    rw [Event.run]
  rw [hrun]
  refine ⟨fun other => ?_, hstep h.inStep⟩
  have hnot : ¬Asks .watch (disk, .unwatch path) other := fun ⟨_, hevent, _⟩ => nomatch hevent
  rw [hlisted other, h.listed other, lastWatched_concat, asks_iff Event.unwatch.inj hpath,
    or_iff_right hnot]

/-- An event about no path leaves the list alone. -/
theorem unconcerned {event : Event} (h : Tracks done s.watch)
    (hwatch : ∀ path, event ≠ .watch path)
    (hunwatch : ∀ path, event ≠ .unwatch path) : Tracks (done ++ [(disk, event)]) s.watch := by
  refine ⟨fun key => ?_, h.inStep⟩
  have hnot : ¬Asks .watch (disk, event) key := fun ⟨path, hevent, _⟩ => hwatch path hevent
  have hnot' : ¬Asks .unwatch (disk, event) key := fun ⟨path, hevent, _⟩ => hunwatch path hevent
  rw [h.listed key, lastWatched_concat, or_iff_right hnot, and_iff_left hnot']

end Tracks

theorem watch_run_changed [Regexes] (s : Watching) (disk : Disk) (key : String) :
    (Event.run s disk (.changed key)).watch = s.watch := by
  rw [Event.run]
  split <;> rfl

/-- The paths that an event watches or unwatches are those of files in directories that are there,
with no link on the way. -/
def Plain (step : Disk × Event) : Prop :=
  ∀ path, step.2 = .watch path ∨ step.2 = .unwatch path → ∃ key, step.1.Denotes path key

/-- **One event** keeps the invariant. -/
theorem Tracks.run [Regexes] (h : Tracks done s.watch) (hplain : Plain step) :
    Tracks (done ++ [step]) (step.2.run s step.1).watch := by
  obtain ⟨disk, event⟩ := step
  cases event with
  | watch path =>
    obtain ⟨key, hkey⟩ := hplain path (.inl rfl)
    exact h.watch hkey
  | unwatch path =>
    obtain ⟨key, hkey⟩ := hplain path (.inr rfl)
    exact h.unwatch hkey
  | call c => exact h.unconcerned nofun nofun
  | changed key =>
    show Tracks _ (Event.run s disk (.changed key)).watch
    rw [watch_run_changed]
    exact h.unconcerned nofun nofun

theorem Tracks.after [Regexes] (h : Tracks done s.watch) (hplain : ∀ step ∈ history, Plain step) :
    Tracks (done ++ history) (s.after history).watch := by
  induction history generalizing done s with
  | nil =>
    rw [List.append_nil]
    exact h
  | cons step history ih =>
    obtain ⟨hstep, hhistory⟩ := List.forall_mem_cons.1 hplain
    rw [List.append_cons]
    exact ih (h.run hstep) hhistory

/-! ## Changed files -/

/-- A listed file is told of, and its entry goes. -/
theorem contains_changed [Regexes] (hstep : s.watch.InStep) (hlisted : key ∈ s.watch.listed)
    (hpath : disk.Denotes path key) (hlink : ∀ target, disk.node? key ≠ some (.link target)) :
    (Event.run s disk (.changed key)).cache.recent.contains key = false := by
  obtain ⟨directory, hparent⟩ := hpath.exists_parent?
  have hregistered : directory ∈ s.watch.registered := (hstep directory).2 ⟨key, hlisted, hparent⟩
  have hhears : s.hears key = true := by
    rw [hears, hparent]
    exact StringSet.contains_iff.2 hregistered
  have hkey : DocumentCache.key disk key = key :=
    DocumentCache.key_eq_iff.2 (hpath.canonical?_or hlink)
  rw [Event.run, if_pos hhears]
  show (s.watch.changed disk key s.cache).recent.contains key = false
  rw [Watch.changed, if_pos (StringSet.contains_iff.2 hlisted), DocumentCache.invalidate, hkey]
  show (s.cache.recent.erase key).contains key = false
  rw [Recent.contains_erase, bne_self_eq_false, Bool.false_and]

theorem cache_changed [Regexes] (hlisted : key ∉ s.watch.listed) :
    (Event.run s disk (.changed key)).cache = s.cache := by
  have hnot : ¬s.watch.listed.contains key = true := fun h => hlisted (StringSet.contains_iff.1 h)
  rw [Event.run]
  split
  · exact if_neg hnot
  · rfl

/-- **Watching stays in step.** Whatever is watched and unwatched, in whatever order, while files
come and go: the listed files are those whose last call watches them, by whichever of their paths;
the registered directories are those of the listed files; and when a file is made, changed or
removed, the cache has no entry of it afterwards if it is listed, and is left alone if it is not. -/
theorem watching_in_step [Regexes] (cache : DocumentCache) (history : History)
    (hplain : ∀ step ∈ history, Plain step) :
    let s := after { cache } history
    (∀ key, key ∈ s.watch.listed ↔ LastWatched history key) ∧
    (∀ directory, directory ∈ s.watch.registered ↔
      ∃ key ∈ s.watch.listed, Location.parent? key = some directory) ∧
    ∀ disk key, (key ∈ s.watch.listed → (∃ path, disk.Denotes path key) →
        (∀ target, disk.node? key ≠ some (.link target)) →
          (Event.run s disk (.changed key)).cache.recent.contains key = false) ∧
      (key ∉ s.watch.listed → (Event.run s disk (.changed key)).cache = s.cache) := by
  intro s
  have hstart : Tracks [] ({ cache } : Watching).watch := tracks_nil
  have htracks : Tracks history s.watch := hstart.after hplain
  refine ⟨htracks.listed, htracks.inStep, fun disk key => ⟨?_, cache_changed⟩⟩
  rintro hlisted ⟨path, hpath⟩ hlink
  exact contains_changed htracks.inStep hlisted hpath hlink

/-- Two files of one directory are watched, by different spellings. One is unwatched, while the
other one is removed, and its entry with it. -/
theorem watching_in_step_of_two_files :
    let disk := ({} : Disk).put "/a" (.file (some "x") 1)
    let later := disk.erase "/a"
    let history : History :=
      [(disk, .watch "a"), (disk, .call (.load "/a")), (disk, .watch ".//b"), (later, .unwatch "b")]
    let s := after { cache := .ofCapacity 1 } history
    (∀ step ∈ history, Plain step) ∧ LastWatched history "/a" ∧ ¬LastWatched history "/b" ∧
      "/" ∈ s.watch.registered ∧ s.cache.recent.contains "/a" = true ∧
      (Event.run s later (.changed "/a")).cache.recent.contains "/a" = false := by
  intro disk later history s
  have hroot : ∀ d : Disk, d.workingDirectory = "/" → d.LeadsStraight "." [] := by
    intro d hd
    exact ⟨by decide, by decide, ⟨3, by rw [hd]; rfl⟩, rfl⟩
  have ha : disk.Denotes "a" "/a" := ⟨"a", [], rfl, hroot disk rfl, rfl⟩
  have ha' : later.Denotes "a" "/a" := ⟨"a", [], rfl, hroot later rfl, rfl⟩
  have hb : disk.Denotes ".//b" "/b" := ⟨"b", [], rfl, hroot disk rfl, rfl⟩
  have hb' : later.Denotes "b" "/b" := ⟨"b", [], rfl, hroot later rfl, rfl⟩
  have hplain : ∀ step ∈ history, Plain step := by
    refine List.forall_mem_cons.2 ⟨?_, List.forall_mem_cons.2 ⟨?_, List.forall_mem_cons.2
      ⟨?_, List.forall_mem_singleton.2 ?_⟩⟩⟩
    · rintro path (h | h)
      · exact ⟨_, Event.watch.inj h ▸ ha⟩
      · cases h
    · rintro path (h | h)
      · cases h
      · cases h
    · rintro path (h | h)
      · exact ⟨_, Event.watch.inj h ▸ hb⟩
      · cases h
    · rintro path (h | h)
      · cases h
      · exact ⟨_, Event.unwatch.inj h ▸ hb'⟩
  obtain ⟨hlisted, hnot, hheld⟩ : "/a" ∈ s.watch.listed ∧ "/b" ∉ s.watch.listed ∧
      s.cache.recent.contains "/a" = true := by
    subst s history later disk
    decide +kernel
  have hgone : later.node? "/a" = none := rfl
  have hstep := watching_in_step (.ofCapacity 1) history hplain
  have hs : after { cache := .ofCapacity 1 } history = s := rfl
  -- what follows needs no further look into the state
  rw [hs] at hstep
  clear_value s
  obtain ⟨hlast, hregistered, hchanged⟩ := hstep
  refine ⟨hplain, (hlast _).1 hlisted, fun h => hnot ((hlast _).2 h),
    (hregistered _).2 ⟨_, hlisted, rfl⟩, hheld, ?_⟩
  exact (hchanged later "/a").1 hlisted ⟨_, ha'⟩ fun target => hgone ▸ nofun

end Watching

end CodeSnapshot

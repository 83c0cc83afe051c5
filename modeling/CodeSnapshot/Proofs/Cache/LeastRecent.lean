import CodeSnapshot.Proofs.Cache.Freshness
import CodeSnapshot.Proofs.Cache.RecentOrder

/-!
# The least recent document goes — how a cache stays within its bound

A cache keeps documents until it is full, and then gives up the one that nobody asked for the
longest. Asking whether a document is kept, or how many there are, is no use of it.

* **`Call.accessed?`**, **`lastAccess?`** — whose entry a call accesses, and when an entry was
  accessed last in a history; said without the order in which the entries are kept.
* **`Effect`** — what a call does to the entries: nothing, or it uses, enters or forgets one.
  `effect` says that there is nothing else.
* **`Effect.inOrder`**, **`inOrder_after`** — one call, and then every history, keeps the entries in
  the order of their last accesses, within the bound.
* **`forgets_oldest`** — the headline: which entries come and go at any call after any history.
-/

namespace CodeSnapshot.DocumentCache

/-! ## Accesses -/

/-- The file whose entry is reached or made by loading a location, when that comes to `r`. -/
def reached? (c : DocumentCache) (disk : Disk) (path : String) (r : Except SnapshotError Handle) :
    Option String :=
  match disk.canonical? path with
  | .ok file => if c.recent.contains file || r.isOk then some file else none
  | .error _ => none

/-- The file whose entry a call accesses. The call loads the file, and finds an entry of it, be it
up to date or not, or makes one. -/
def Call.accessed? (c : DocumentCache) (disk : Disk) (call : Call) : Option String :=
  call.location?.bind fun path => c.reached? disk path (c.load disk path).1

/-- The number of the last call of a history that accesses the entry of a file. -/
def lastAccess? [Regexes] (c : DocumentCache) : History → String → Option Nat
  | [], _ => none
  | (disk, call) :: rest, file =>
    match (call.run c disk).lastAccess? rest file with
    | some n => some (n + 1)
    | none => if call.accessed? c disk = some file then some 0 else none

variable {c : DocumentCache} {disk : Disk} {call : Call} {path file : String} {history : History}

theorem lastAccess?_lt [Regexes] {n : Nat} (h : c.lastAccess? history file = some n) :
    n < history.length := by
  induction history generalizing c n with
  | nil => cases h
  | cons step rest ih =>
    rw [lastAccess?] at h
    split at h
    · rename_i m hm
      obtain rfl := Option.some.inj h
      exact Nat.succ_lt_succ (ih hm)
    · split at h
      · obtain rfl := Option.some.inj h
        exact Nat.zero_lt_succ _
      · cases h

/-- One more call is the last access of the entry that it accesses. -/
theorem lastAccess?_concat [Regexes] (c : DocumentCache) (history : History) (disk : Disk)
    (call : Call) (file : String) :
    c.lastAccess? (history ++ [(disk, call)]) file =
      if call.accessed? (c.after history) disk = some file then some history.length
      else c.lastAccess? history file := by
  induction history generalizing c with
  | nil => rfl
  | cons step rest ih =>
    have hafter : c.after (step :: rest) = (step.2.run c step.1).after rest := rfl
    rw [List.cons_append, lastAccess?, ih, hafter]
    by_cases hlast : call.accessed? ((step.2.run c step.1).after rest) disk = some file
    · rw [if_pos hlast, if_pos hlast]
      rfl
    · rw [if_neg hlast, if_neg hlast, lastAccess?]

/-! ## What a call does to the entries -/

/-- What a call does to the entries of a cache, and whose entry it accesses. -/
inductive Effect (c : DocumentCache) (disk : Disk) (call : Call) :
    Option String → Recent CachedDocument → Prop where
  /-- nothing -/
  | nothing : Effect c disk call none c.recent
  /-- it removes an entry -/
  | forgets (path : String) (asked : call = .invalidate path) :
      Effect c disk call none (c.recent.erase (key disk path))
  /-- it uses an entry that is there -/
  | uses (file : String) (held : c.recent.contains file = true) :
      Effect c disk call (some file) (c.recent.touch file)
  /-- it gives a file a new entry -/
  | enters (path file : String) (entry : CachedDocument) (asked : call.location? = some path)
      (canonical : disk.canonical? path = .ok file) :
      Effect c disk call (some file) (c.recent.put file entry)

theorem reached?_of_canonical (r : Except SnapshotError Handle)
    (h : disk.canonical? path = .ok file) :
    c.reached? disk path r = if c.recent.contains file || r.isOk then some file else none := by
  rw [reached?, h]

theorem Loads.effect {r : Except SnapshotError Handle} {c' : DocumentCache}
    (hloads : c.Loads disk path r c') (hasked : call.location? = some path) :
    Effect c disk call (c.reached? disk path r) c'.recent := by
  cases hloads with
  | missing e absent =>
    have hnowhere : c.reached? disk path (.error e) = none := by
      rw [reached?]
      split
      · rename_i file hpath
        obtain ⟨time, htime⟩ := Disk.exists_modified?_of_canonical? hpath
        exact absurd htime (absent file time hpath)
      · rfl
    rw [hnowhere]
    exact .nothing
  | unreadable e file canonical unread =>
    rw [reached?_of_canonical _ canonical]
    cases hheld : c.recent.contains file with
    | true => exact .uses file hheld
    | false =>
      -- looking for an entry that is not there is no use of it
      have hnone : c.recent.get? file = none := by
        rwa [Recent.contains, Option.isSome_eq_false_iff, Option.isNone_iff_eq_none] at hheld
      have hsame : (c.used file).recent = c.recent := Recent.touch_of_get?_eq_none hnone
      rw [hsame]
      exact .nothing
  | found file entry canonical entry_eq modified =>
    have hheld : c.recent.contains file = true := by rw [Recent.contains, entry_eq]; rfl
    rw [reached?_of_canonical _ canonical, hheld]
    exact .uses file hheld
  | parsed file text modified canonical content modified_eq stale =>
    rw [reached?_of_canonical _ canonical]
    have hput : ((c.used file).kept file modified (Document.parse file modified text)).recent =
        c.recent.put file _ := Recent.put_touch ..
    rw [hput, Except.isOk, Except.toBool, Bool.or_true, if_pos rfl]
    exact .enters path file _ hasked canonical

/-- **What a call does** to the entries. -/
theorem effect [Regexes] (c : DocumentCache) (disk : Disk) (call : Call) :
    Effect c disk call (call.accessed? c disk) (call.run c disk).recent := by
  cases call with
  | load path => exact (c.loads disk path).effect rfl
  | search path pattern options => exact (c.loads disk path).effect rfl
  | contextWindow path file line before after => exact (c.loads disk path).effect rfl
  | invalidate path => exact .forgets path rfl
  | contains path => exact .nothing

/-! ## The order of the entries -/

section

variable {last last' : String → Option Nat} {now : Nat}

/-- **One call** keeps the entries in the order of their last accesses. -/
theorem Effect.inOrder {accessed : Option String} {entries : Recent CachedDocument}
    (heffect : Effect c disk call accessed entries) (h : c.recent.InOrder last)
    (hlast : ∀ other, last' other = if accessed = some other then some now else last other)
    (hnow : ∀ other n, last other = some n → n < now) : entries.InOrder last' := by
  have hsame : accessed = none → last' = last := fun hnone => funext fun other => by
    rw [hlast, hnone, if_neg nofun]
  have hself : ∀ file, accessed = some file →
      ∀ other, last' other = if other = file then some now else last other := by
    intro file hfile other
    subst hfile
    rw [hlast]
    simp only [Option.some_inj, eq_comm]
  cases heffect with
  | nothing => exact hsame rfl ▸ h
  | forgets path asked => exact hsame rfl ▸ h.erase _
  | uses file held => exact h.touch (hself file rfl) hnow held
  | enters path file entry asked canonical => exact h.put (hself file rfl) hnow entry

end

theorem Effect.capacity {accessed : Option String} {entries : Recent CachedDocument}
    (heffect : Effect c disk call accessed entries) : entries.capacity = c.recent.capacity := by
  cases heffect with
  | nothing => rfl
  | forgets path asked => rfl
  | uses file held => exact Recent.capacity_touch ..
  | enters path file entry asked canonical => rfl

theorem after_concat [Regexes] (c : DocumentCache) (history : History) (disk : Disk) (call : Call) :
    c.after (history ++ [(disk, call)]) = call.run (c.after history) disk := by
  rw [after, List.foldl_append]
  rfl

/-- **Every history** leaves the entries within the bound, in the order of their last accesses. -/
theorem inOrder_after [Regexes] (capacity : Nat) (history : History) :
    ((ofCapacity capacity).after history).recent.InOrder
        ((ofCapacity capacity).lastAccess? history) ∧
      ((ofCapacity capacity).after history).recent.capacity = max capacity 1 := by
  -- the last call is the one that the step is about
  obtain ⟨calls, rfl⟩ : ∃ calls : History, history = calls.reverse :=
    ⟨_, (List.reverse_reverse _).symm⟩
  induction calls with
  | nil => exact ⟨Recent.inOrder_ofCapacity _ capacity, rfl⟩
  | cons step calls ih =>
    obtain ⟨disk, call⟩ := step
    have heffect := ((ofCapacity capacity).after calls.reverse).effect disk call
    rw [List.reverse_cons, after_concat]
    exact ⟨heffect.inOrder ih.1 (lastAccess?_concat _ calls.reverse disk call)
      fun _ _ => lastAccess?_lt, heffect.capacity.trans ih.2⟩

/-! ## All histories -/

/-- A call makes an entry for a file that had none. -/
def Call.Adds [Regexes] (c : DocumentCache) (disk : Disk) (call : Call) (file : String) : Prop :=
  c.recent.contains file = false ∧ (call.run c disk).recent.contains file = true

/-- The entry of a file disappears by a call. -/
def Call.Loses [Regexes] (c : DocumentCache) (disk : Disk) (call : Call) (file : String) : Prop :=
  c.recent.contains file = true ∧ (call.run c disk).recent.contains file = false

/-- Which entries come and go by a call, where `last` tells when each entry was accessed last. -/
structure ForgetsOldest [Regexes] (last : String → Option Nat) (c : DocumentCache) (disk : Disk)
    (call : Call) : Prop where
  /-- no file has two entries -/
  distinct : c.recent.Distinct
  bounded : c.stats.entries ≤ c.stats.capacity
  accessed : ∀ file, c.recent.contains file = true → (last file).isSome = true
  /-- an entry is made by a load, and for the canonical path of what is loaded -/
  adds : ∀ file, call.Adds c disk file →
    ∃ path, call.location? = some path ∧ disk.canonical? path = .ok file
  /-- an entry disappears when it is asked for that, or when another is made in a full cache -/
  loses : ∀ file, call.Loses c disk file →
    (∃ path, call = .invalidate path ∧ key disk path = file) ∨
    (∃ new, call.Adds c disk new) ∧ c.stats.entries = c.stats.capacity
  /-- when one is made in a full cache, just the one goes that was not accessed the longest -/
  oldest : ∀ new, call.Adds c disk new → c.stats.entries = c.stats.capacity →
    ∃ victim, (∀ file, call.Loses c disk file ↔ file = victim) ∧
      ∀ file, c.recent.contains file = true → file ≠ victim → last victim < last file
  /-- a load of a file that has an entry costs no entry -/
  reloads : ∀ path file, call.location? = some path → disk.canonical? path = .ok file →
    c.recent.contains file = true →
    ∀ other, (call.run c disk).recent.contains other = c.recent.contains other

variable {last : String → Option Nat}

namespace Effect

variable {accessed : Option String} {entries : Recent CachedDocument}

/-- An entry that a call makes is that of the file which it loads. -/
theorem entered (heffect : Effect c disk call accessed entries)
    (hold : c.recent.contains file = false) (hnew : entries.contains file = true) :
    ∃ path entry, call.location? = some path ∧ disk.canonical? path = .ok file ∧
      entries = c.recent.put file entry := by
  cases heffect with
  | nothing =>
    rw [hold] at hnew
    cases hnew
  | forgets path asked =>
    rw [Recent.contains_erase, hold, Bool.and_false] at hnew
    cases hnew
  | uses other held =>
    rw [Recent.contains_touch, hold] at hnew
    cases hnew
  | enters path other entry asked canonical =>
    by_cases hfile : file = other
    · subst hfile
      exact ⟨path, entry, asked, canonical, rfl⟩
    · obtain ⟨entry', hentry'⟩ := Option.isSome_iff_exists.1 hnew
      rw [Recent.contains, Recent.get?_of_get?_put hentry' hfile] at hold
      cases hold

/-- An entry that a call costs was to be removed, or had to make room for another. -/
theorem lost (heffect : Effect c disk call accessed entries) (h : c.recent.InOrder last)
    (hold : c.recent.contains file = true) (hnew : entries.contains file = false) :
    (∃ path, call = .invalidate path ∧ key disk path = file) ∨
    (∃ new, c.recent.contains new = false ∧ entries.contains new = true) ∧
      c.recent.size = c.recent.capacity := by
  cases heffect with
  | nothing =>
    rw [hold] at hnew
    cases hnew
  | forgets path asked =>
    rw [Recent.contains_erase, hold, Bool.and_true, bne_eq_false_iff_eq] at hnew
    exact .inl ⟨path, asked, hnew.symm⟩
  | uses other held =>
    rw [Recent.contains_touch, hold] at hnew
    cases hnew
  | enters path other entry asked canonical =>
    have hfull : ¬(c.recent.contains other = true ∨ c.recent.size < c.recent.capacity) := by
      intro hfits
      rw [(h.contains_put_of_fits entry hfits).2 (.inr hold)] at hnew
      cases hnew
    obtain ⟨hother, hsize⟩ := not_or.1 hfull
    have hput : (c.recent.put other entry).contains other = true :=
      congrArg Option.isSome (Recent.get?_put_self ..)
    exact .inr ⟨⟨other, Bool.not_eq_true _ ▸ hother, hput⟩,
      Nat.le_antisymm h.fits (Nat.not_lt.1 hsize)⟩

/-- Loading what has an entry leaves all entries where they are. -/
theorem contains_of_held (heffect : Effect c disk call accessed entries)
    (h : c.recent.InOrder last) (hasked : call.location? = some path)
    (hpath : disk.canonical? path = .ok file) (hheld : c.recent.contains file = true)
    (other : String) : entries.contains other = c.recent.contains other := by
  cases heffect with
  | nothing => rfl
  | forgets path asked =>
    subst asked
    cases hasked
  | uses other held => exact Recent.contains_touch ..
  | enters path' file' entry asked canonical =>
    obtain rfl := Option.some.inj (hasked.symm.trans asked)
    obtain rfl := Except.ok.inj (hpath.symm.trans canonical)
    rw [Bool.eq_iff_iff, h.contains_put_of_fits entry (.inl hheld)]
    exact or_iff_right_of_imp fun heq => heq ▸ hheld

end Effect

/-- **The least recently accessed entry goes.** Whatever the capacity, and after every history: a
cache has no more entries than it may have, no two for one file; an entry is made by a load only; it
disappears only when its file is invalidated, or when an entry is made for another file that had
none while the cache was full; in that case just one goes, the one whose last access is the oldest;
and a load of a file that has an entry, up to date or not, costs no entry. -/
theorem forgets_oldest [Regexes] (capacity : Nat) (history : History) (disk : Disk) (call : Call) :
    let c := (ofCapacity capacity).after history
    c.stats.capacity = max capacity 1 ∧
      ForgetsOldest ((ofCapacity capacity).lastAccess? history) c disk call := by
  intro c
  obtain ⟨horder, hcapacity⟩ := inOrder_after capacity history
  have heffect := c.effect disk call
  refine ⟨hcapacity, horder.listed.distinct, horder.fits, fun file hfile => ?_,
    fun file hadds => ?_, fun file hloses => ?_, fun new hadds hfull => ?_, ?_⟩
  · exact horder.listed.used file (Recent.mem_keys_iff.2 hfile)
  · obtain ⟨path, -, hasked, hpath, -⟩ := heffect.entered hadds.1 hadds.2
    exact ⟨path, hasked, hpath⟩
  · exact heffect.lost horder hloses.1 hloses.2
  · obtain ⟨-, entry, -, -, hput⟩ := heffect.entered hadds.1 hadds.2
    obtain ⟨victim, hvictim, hne, hcontains, holdest⟩ := horder.exists_victim entry hadds.1 hfull
    refine ⟨victim, fun file => ?_, holdest⟩
    rw [Call.Loses, hput, ← Bool.not_eq_true, hcontains]
    constructor
    · rintro ⟨hold, hgone⟩
      exact Classical.byContradiction fun hother => hgone (.inr ⟨hold, hother⟩)
    · rintro rfl
      exact ⟨hvictim, fun h => h.elim hne fun h => h.2 rfl⟩
  · intro path file hasked hpath hheld other
    exact heffect.contains_of_held horder hasked hpath hheld other

/-- Of two documents the one goes whose file was only looked at; the other file was loaded again,
when it had become unreadable. -/
theorem forgets_oldest_behind_failure :
    let before := ((({} : Disk).put "/a" (.file (some "x") 1)).put "/b" (.file (some "y") 1)).put
      "/c" (.file (some "z") 1)
    let disk := before.put "/a" (.file none 2)
    let history : History :=
      [(before, .load "/a"), (before, .load "/b"), (disk, .load "/a"), (disk, .contains "/b")]
    let c := (ofCapacity 2).after history
    (c.load disk "/a").1 = .error (.notText "/a") ∧ c.stats.entries = 2 ∧
      ∀ file, (Call.load "/c").Loses c disk file ↔ file = "/b" := by
  intro before disk history c
  obtain ⟨hfails, hentries, hadds, hloses⟩ :
      (c.load disk "/a").1 = .error (.notText "/a") ∧ c.stats.entries = 2 ∧
        (Call.load "/c").Adds c disk "/c" ∧ (Call.load "/c").Loses c disk "/b" := by
    subst c history disk before
    exact ⟨rfl, rfl, ⟨rfl, rfl⟩, rfl, rfl⟩
  obtain ⟨hcapacity, hforgets⟩ := forgets_oldest 2 history disk (.load "/c")
  obtain ⟨victim, hvictim, -⟩ := hforgets.oldest "/c" hadds (hentries.trans hcapacity.symm)
  obtain rfl := (hvictim "/b").1 hloses
  exact ⟨hfails, hentries, hvictim⟩

end CodeSnapshot.DocumentCache

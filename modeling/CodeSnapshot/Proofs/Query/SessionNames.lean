import CodeSnapshot.Query.Eval
import CodeSnapshot.Proofs.Sorted.MapLookup

/-!
# Session names — what is bound at the start of a turn

A session binds the value of each command that succeeds to the name of its turn and to `RESULTS`.
What this comes to over a whole run is told by a sequence of bindings, one for each turn:

* **`turnName_injective`**, **`turnName_ne_resultsName`** — no two turns share a name, and no turn
  has the name of the latest result.
* **`Follow`** — what the bindings of a run hold, turn by turn.
* **`follow_of_steps`** — bindings that start empty and take one step for each turn do so. The loops
  that run commands are instances of it.
-/

namespace CodeSnapshot

namespace Bindings

/-! ## Names -/

theorem toList_turnName (turn : Nat) : (turnName turn).toList = '_' :: Nat.toDigits 10 turn := by
  simp [turnName]

/-- The number of a turn is read back from its name. -/
theorem turnName_injective {m n : Nat} (h : turnName m = turnName n) : m = n := by
  have hchars : '_' :: Nat.toDigits 10 m = '_' :: Nat.toDigits 10 n := by
    rw [← toList_turnName, h, toList_turnName]
  have hread := congrArg (fun chars => Nat.ofDigitChars 10 chars.tail 0) hchars
  simpa using hread

theorem turnName_ne_resultsName (turn : Nat) : turnName turn ≠ resultsName := by
  intro h
  have hchars : '_' :: Nat.toDigits 10 turn = ['R', 'E', 'S', 'U', 'L', 'T', 'S'] := by
    rw [← toList_turnName, h]
    rfl
  exact absurd (List.cons.inj hchars).1 (by decide)

section

variable {b : Bindings} {turn : Nat} {v : Value} {name : String}

theorem get?_record_turnName : (b.record turn v).get? (turnName turn) = some v := by
  rw [record, StringMap.get?_insert_ne _ v (turnName_ne_resultsName turn), StringMap.get?_insert_self]

theorem get?_record_resultsName : (b.record turn v).get? resultsName = some v :=
  StringMap.get?_insert_self ..

theorem get?_record_ne (hturn : name ≠ turnName turn) (hresults : name ≠ resultsName) :
    (b.record turn v).get? name = b.get? name := by
  rw [record, StringMap.get?_insert_ne _ v hresults, StringMap.get?_insert_ne _ v hturn]

theorem mem_keys_record :
    name ∈ (b.record turn v).keys ↔ name = resultsName ∨ name = turnName turn ∨ name ∈ b.keys := by
  rw [record, StringMap.mem_keys_insert, StringMap.mem_keys_insert]

end

end Bindings

/-! ## Frames of lambdas -/

namespace Scope

/-- The scope inside some lambdas, the outermost first. -/
def enter (s : Scope) (frames : List (String × Value)) : Scope :=
  frames.foldl (fun s frame => s.child frame.1 frame.2) s

/-- Whatever lambdas are entered, the names of the session below are the same. -/
theorem session_enter (s : Scope) (frames : List (String × Value)) :
    (s.enter frames).session = s.session := by
  induction frames generalizing s with
  | nil => rfl
  | cons frame frames ih => exact ih (s.child frame.1 frame.2)

/-- A name that no lambda has as its parameter keeps its value inside. -/
theorem lookup?_enter (s : Scope) {frames : List (String × Value)} {name : String}
    (h : ∀ frame ∈ frames, frame.1 ≠ name) : (s.enter frames).lookup? name = s.lookup? name := by
  induction frames generalizing s with
  | nil => rfl
  | cons frame frames ih =>
    rw [← lookup?_child_ne s frame.2 (h frame (List.mem_cons_self ..))]
    exact ih _ fun other hother => h other (List.mem_cons_of_mem _ hother)

end Scope

/-! ## Runs of commands -/

/-- The value of the command of a turn, if the turn has one and it succeeds. -/
def Source.valueOf [Regexes] [Sorting] (source : Source) (command? : Option String)
    (b : Bindings) : Option Value :=
  command?.bind fun command => (source.execute command b).toOption

namespace Bindings

/-- The value that a turn gives, with the bindings `b k` after `k` turns. -/
def turnValue [Regexes] [Sorting] (source : Source) (command? : Nat → Option String)
    (b : Nat → Bindings) (turn : Nat) : Option Value :=
  source.valueOf (command? turn) (b (turn - 1))

/-- A turn before another one whose command succeeds. -/
def SucceedsBefore (value : Nat → Option Value) (turn s : Nat) : Prop :=
  1 ≤ s ∧ s < turn ∧ (value s).isSome

/-- What is bound at the start of a turn, told from the values of the turns before it. -/
structure AtStart (value : Nat → Option Value) (turn : Nat) (b : Bindings) : Prop where
  mem_keys : ∀ name, name ∈ b.keys ↔
    (∃ s, SucceedsBefore value turn s ∧ name = turnName s) ∨
      (name = resultsName ∧ ∃ s, SucceedsBefore value turn s)
  get?_turnName : ∀ s, 1 ≤ s → s < turn → b.get? (turnName s) = value s
  /-- `RESULTS` has the value of the last turn that gave one -/
  get?_resultsName : ∀ s v, 1 ≤ s → s < turn → value s = some v →
    (∀ u, s < u → u < turn → value u = none) → b.get? resultsName = some v

/-- What a turn does to the bindings. -/
structure Keeps (turn : Nat) (value : Option Value) (b b' : Bindings) : Prop where
  /-- a turn without a value changes nothing -/
  eq_of_none : value = none → b' = b
  get?_eq : ∀ name, name ≠ turnName turn → name ≠ resultsName → b'.get? name = b.get? name

/-- The bindings `b k` after `k` turns, for up to `n` turns with some commands. -/
structure Follow [Regexes] [Sorting] (source : Source) (command? : Nat → Option String) (n : Nat)
    (b : Nat → Bindings) : Prop where
  atStart : ∀ k ≤ n, AtStart (turnValue source command? b) (k + 1) (b k)
  keeps : ∀ k < n, Keeps (k + 1) (turnValue source command? b (k + 1)) (b k) (b (k + 1))
  /-- inside the lambdas of a command, whatever their parameters are, the names of the session stay
  as they are, and those that are no parameters are read there -/
  frames : ∀ k ≤ n, ∀ frames, ((Scope.root (b k)).enter frames).session = b k ∧
    ∀ name, (∀ frame ∈ frames, frame.1 ≠ name) →
      ((Scope.root (b k)).enter frames).lookup? name = (b k).get? name

/-! ## One step -/

section

variable {value : Nat → Option Value} {turn : Nat} {b : Bindings}

theorem atStart_empty : AtStart value 1 .empty where
  mem_keys name := by
    constructor
    · intro h
      cases h
    · rintro (⟨s, ⟨hpos, hlt, -⟩, -⟩ | ⟨-, s, hpos, hlt, -⟩) <;> omega
  get?_turnName s hpos hlt := absurd hlt (by omega)
  get?_resultsName s v hpos hlt := absurd hlt (by omega)

/-- The turns that succeed before the next one: the same if this turn gives nothing, else this turn
too. -/
theorem succeedsBefore_succ {s : Nat} (hturn : 1 ≤ turn) :
    SucceedsBefore value (turn + 1) s ↔
      SucceedsBefore value turn s ∨ (s = turn ∧ (value turn).isSome) := by
  constructor
  · rintro ⟨hpos, hlt, hs⟩
    rcases Nat.lt_succ_iff_lt_or_eq.1 hlt with hlt | rfl
    · exact .inl ⟨hpos, hlt, hs⟩
    · exact .inr ⟨rfl, hs⟩
  · rintro (⟨hpos, hlt, hs⟩ | ⟨rfl, hs⟩)
    · exact ⟨hpos, by omega, hs⟩
    · exact ⟨hturn, by omega, hs⟩

theorem AtStart.of_none (h : AtStart value turn b) (hturn : 1 ≤ turn) (hv : value turn = none) :
    AtStart value (turn + 1) b where
  mem_keys name := by
    have hsame (s : Nat) : SucceedsBefore value (turn + 1) s ↔ SucceedsBefore value turn s := by
      rw [succeedsBefore_succ hturn, hv]
      simp
    simp only [hsame]
    exact h.mem_keys name
  get?_turnName s hpos hlt := by
    rcases Nat.lt_succ_iff_lt_or_eq.1 hlt with hlt | rfl
    · exact h.get?_turnName s hpos hlt
    -- this turn has no name, for the names are those of turns that gave a value
    · rw [hv, ← Option.not_isSome_iff_eq_none, ← StringMap.mem_keys_iff, h.mem_keys]
      rintro (⟨u, ⟨-, hu, -⟩, hname⟩ | ⟨hname, -⟩)
      · have := turnName_injective hname
        omega
      · exact turnName_ne_resultsName s hname
  get?_resultsName s v hpos hlt hs hlast := by
    rcases Nat.lt_succ_iff_lt_or_eq.1 hlt with hlt | rfl
    · exact h.get?_resultsName s v hpos hlt hs fun u hu hu' => hlast u hu (by omega)
    · rw [hv] at hs
      cases hs

theorem AtStart.record {v : Value} (h : AtStart value turn b) (hturn : 1 ≤ turn)
    (hv : value turn = some v) : AtStart value (turn + 1) (b.record turn v) where
  mem_keys name := by
    have hthis : SucceedsBefore value (turn + 1) turn := ⟨hturn, by omega, by rw [hv]; rfl⟩
    rw [mem_keys_record, h.mem_keys]
    constructor
    · rintro (hresults | hname | ⟨s, hs, hname⟩ | ⟨hresults, -⟩)
      · exact .inr ⟨hresults, turn, hthis⟩
      · exact .inl ⟨turn, hthis, hname⟩
      · exact .inl ⟨s, (succeedsBefore_succ hturn).2 (.inl hs), hname⟩
      · exact .inr ⟨hresults, turn, hthis⟩
    · rintro (⟨s, hs, hname⟩ | ⟨hresults, -⟩)
      · rcases (succeedsBefore_succ hturn).1 hs with hs | ⟨rfl, -⟩
        · exact .inr (.inr (.inl ⟨s, hs, hname⟩))
        · exact .inr (.inl hname)
      · exact .inl hresults
  get?_turnName s hpos hlt := by
    rcases Nat.lt_succ_iff_lt_or_eq.1 hlt with hlt | rfl
    · have hne : turnName s ≠ turnName turn := fun hname => by
        have := turnName_injective hname
        omega
      rw [get?_record_ne hne (turnName_ne_resultsName s), h.get?_turnName s hpos hlt]
    · rw [get?_record_turnName, hv]
  get?_resultsName s w hpos hlt hs hlast := by
    -- this turn is the last one with a value
    have heq : s = turn := by
      rcases Nat.lt_succ_iff_lt_or_eq.1 hlt with hlt' | heq
      · have hnone := hlast turn hlt' (by omega)
        rw [hv] at hnone
        cases hnone
      · exact heq
    rw [heq, hv] at hs
    rw [get?_record_resultsName, hs]

theorem keeps_elim (value : Option Value) : Keeps turn value b (value.elim b (b.record turn)) := by
  cases value with
  | none => exact ⟨fun _ => rfl, fun _ _ _ => rfl⟩
  | some v => exact ⟨nofun, fun _ hturn hresults => get?_record_ne hturn hresults⟩

end

/-! ## All steps -/

/-- **What a run binds.** Induction on the turns, with `AtStart` as the invariant. -/
theorem follow_of_steps [Regexes] [Sorting] {source : Source} {command? : Nat → Option String}
    {n : Nat} {b : Nat → Bindings} (hempty : b 0 = .empty)
    (hstep : ∀ k < n, b (k + 1) =
      (turnValue source command? b (k + 1)).elim (b k) ((b k).record (k + 1))) :
    Follow source command? n b where
  atStart k hk := by
    induction k with
    | zero =>
      rw [hempty]
      exact atStart_empty
    | succ k ih =>
      have h := ih (by omega)
      rw [hstep k hk]
      cases hv : turnValue source command? b (k + 1) with
      | none => exact h.of_none (Nat.succ_pos k) hv
      | some v => exact h.record (Nat.succ_pos k) hv
  keeps k hk := by
    rw [hstep k hk]
    exact keeps_elim _
  frames k _ frames := ⟨Scope.session_enter _ frames, fun _ h => Scope.lookup?_enter _ h⟩

end Bindings

end CodeSnapshot

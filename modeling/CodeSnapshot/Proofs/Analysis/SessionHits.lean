import CodeSnapshot.Proofs.Analysis.CommandOutcomes
import CodeSnapshot.Proofs.Document.HitPlaces
import CodeSnapshot.Proofs.Query.HeldHits

/-!
# Session matches — every match that a session can see is coherent

Values live on from turn to turn, so a match may be seen long after it was made. It tells the truth
about the text all the same, since commands only hand matches on and the text does not change.

* **`makes_coherent`** — the two places where matches are made, for a parsed snapshot.
* **`allHits_evalBindings`**, **`allHits_after`** — what the two loops keep from command to command.
* **`hits_coherent`** — the headline, for every text and all commands, in both loops.
-/

namespace CodeSnapshot

variable {path text : String} {modified : Nat}

/-! ## Where matches are made -/

/-- A whole line, as a match, tells the truth about the text. -/
theorem Source.coherent_lineHit {number : Nat} {line : Line}
    (h : (Lines.ofText text).get? number = some line) : (lineHit number line).Coherent text := by
  have hmatched : line.text.toList = [] ++ (lineHit number line).matched.toList ++ [] :=
    (List.append_nil _).symm
  exact Hit.coherent_of_line h rfl hmatched rfl

theorem Source.makes_coherent {s : Source} (hs : s.document = Document.parse path modified text) :
    s.Makes (Hit.Coherent text) := by
  have hlines : s.document.lines = Lines.ofText text := by
    rw [hs]
    rfl
  constructor
  · intro r h hh
    rw [hlines] at hh
    exact Lines.coherent_of_mem_hits hh
  · intro first last i line hfirst hline
    rw [hlines] at hline
    exact Source.coherent_lineHit (Lines.get?_of_mem_zipIdx_slice hfirst hline)

/-! ## What the loops keep -/

variable {P : Hit → Prop}

namespace CommandLine

variable [Regexes] [Sorting]

theorem allHits_evalBindings {source : Source} (hs : source.Makes P) (commands : List String)
    (k : Nat) : (evalBindings source commands k).AllHits P := by
  induction k with
  | zero => exact Bindings.allHits_empty
  | succ k ih =>
    rw [evalBindings]
    cases hv : source.valueOf commands[k]? (evalBindings source commands k) with
    | none => exact ih
    | some v =>
      -- only a command that succeeds gives a value
      obtain ⟨command, -, hcommand⟩ := Option.bind_eq_some_iff.1 hv
      have hresult := Source.allHits_execute hs command ih
      cases hr : source.execute command (evalBindings source commands k) with
      | error e =>
        rw [hr] at hcommand
        cases hcommand
      | ok w =>
        rw [hr] at hcommand
        cases hcommand
        exact ih.record (k + 1) (hresult _ hr)

theorem allHits_evalOutcomes {source : Source} (hs : source.Makes P) {commands : List String}
    {o : CommandOutcome} (ho : o ∈ evalOutcomes source commands) {v : Value}
    (hv : o.result = .ok v) : v.AllHits P := by
  obtain ⟨k, hk, rfl⟩ := List.mem_mapIdx.1 ho
  exact Source.allHits_execute hs _ (allHits_evalBindings hs commands k) v hv

end CommandLine

namespace Session

/-- What is bound in a session, and what it has handed on. -/
structure KeepsHits (P : Hit → Prop) (s : Session) : Prop where
  bindings : s.bindings.AllHits P
  results : ∀ r ∈ s.results, r.2.2.AllHits P

variable [Regexes] [Sorting] {s : Session}

/-- **One turn.** -/
theorem KeepsHits.takes (hs : s.source.Makes P) (h : s.KeepsHits P) {turn : Nat} {c : Completion}
    {action : TurnAction} {value : Option Value} {next : Session}
    (ht : Takes s turn c action value next) : next.KeepsHits P := by
  have hbindings := ht.bindings
  have hresults := ht.results
  cases ht.interprets with
  | command _ command hcommand v hv =>
    have hvalue := Source.allHits_execute hs command h.bindings v hv
    constructor
    · rw [hbindings]
      exact h.bindings.record turn hvalue
    · intro r hr
      rw [hresults] at hr
      rcases List.mem_append.1 hr with hr | hr
      · exact h.results r hr
      · obtain rfl := List.mem_singleton.1 hr
        exact hvalue
  | final | noCommand | commandError =>
    constructor
    · rw [hbindings]
      exact h.bindings
    · intro r hr
      rw [hresults] at hr
      exact h.results r (by simpa [TurnAction.command?] using hr)

theorem allHits_after (hs : s.source.Makes P) (h : s.KeepsHits P) (model : Model) (k : Nat) :
    (s.after model k).KeepsHits P := by
  induction k with
  | zero => exact h
  | succ k ih =>
    rcases (s.after model k).take_cases (k + 1) (model k) with
      ⟨c, action, value, next, -, htake, ht⟩ | ⟨why, htake, -⟩
    · rw [after_succ htake]
      exact ih.takes (by rwa [after_source]) ht
    · rw [after, htake]
      exact ih

end Session

/-! ## All commands -/

/-- **The matches that a session can see.** For every text and whatever commands are run one after the
other, by an inspection or in the turns of a session with a model: every match inside a value that
one of them gives is coherent with the text. -/
theorem hits_coherent [Regexes] [Sorting] (path : String) (modified : Nat) (text : String) :
    let d := Document.parse path modified text
    (∀ maxHits commands, let source : Source := { document := d, maxHits }
      CommandLine.evalSteps source .empty 1 commands =
        CommandOutcome.steps? (CommandLine.evalOutcomes source commands) ∧
      ∀ o ∈ CommandLine.evalOutcomes source commands,
        ∀ v, o.result = .ok v → ∀ h, v.Holds h → h.Coherent text) ∧
    (∀ query limits model, ∀ r ∈ ((Session.start d query limits).run model).results,
      ∀ h, r.2.2.Holds h → h.Coherent text) := by
  intro d
  constructor
  · intro maxHits commands source
    refine ⟨CommandLine.evalSteps_eq source commands, fun o ho v hv => ?_⟩
    exact CommandLine.allHits_evalOutcomes (Source.makes_coherent rfl) ho hv
  · intro query limits model r hr
    -- what is handed on in the end was handed on within the turns
    rw [(Session.ends_run _ model).results] at hr
    have hstart : (Session.start d query limits).KeepsHits (Hit.Coherent text) :=
      ⟨Bindings.allHits_empty, nofun⟩
    exact (Session.allHits_after (Source.makes_coherent rfl) hstart model _).results r hr

/-- The last one of the matches of an earlier command, behind lines that end in two ways. -/
theorem hits_coherent_behind_line_ends :
    let text := "aé\r\nbéé\nc"
    let source : Source := { document := Document.parse "snapshot.txt" 0 text }
    let h : Hit := ⟨"é", "béé", 2, 6, []⟩
    (∃ o ∈ CommandLine.evalOutcomes source ["(grep \"é\")", "(last _1)"],
      o.result = .ok (.hit h)) ∧ h.Coherent text := by
  have hsecond : (CommandLine.evalOutcomes
      { document := Document.parse "snapshot.txt" 0 "aé\r\nbéé\nc" }
      ["(grep \"é\")", "(last _1)"])[1]? =
        some ⟨2, "(last _1)", .ok (.hit ⟨"é", "béé", 2, 6, []⟩)⟩ := rfl
  have hmem := List.mem_of_getElem? hsecond
  have hcoherent := (hits_coherent "snapshot.txt" 0 "aé\r\nbéé\nc").1 1000
    ["(grep \"é\")", "(last _1)"]
  exact ⟨⟨_, hmem, rfl⟩, hcoherent.2 _ hmem _ rfl _ .hit⟩

end CodeSnapshot

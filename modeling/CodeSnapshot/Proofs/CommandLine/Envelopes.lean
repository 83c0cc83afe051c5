import CodeSnapshot.Proofs.Analysis.SessionBindings

/-!
# Envelopes — what a command prints whose answer is JSON

An answer comes in an envelope, and so does the reason why there is none. But a command may come to no
answer at all: its settings are loaded before it has an envelope to print, and so is the client made that
it asks a server with; and it may not come to its end.

* **`Envelope.TellsSuccess`**, **`Envelope.TellsFailure`** — what a reader of an envelope finds.
* **`Run.Answers`** — a run that prints one envelope, of the outcome that its exit code tells;
  **`Run.Silent`** — one that prints nothing, and does not end with success.
* **`Request.Completes`** — nothing keeps a request from its end. `run_cases` goes through what becomes of
  those that complete, and of those that do not.
* **`answers_iff`** — the headline: a run answers if and only if its settings can be loaded and its
  request completes; otherwise it is silent.
* **`not_answers_of_invalid_variable`** — a variable that is no number leaves nothing to be read.
-/

namespace CodeSnapshot

/-- What a reader of an object finds under a name. -/
def Json.field? (value : Json) (name : String) : Option Json :=
  match value with
  | .object fields => (fields.find? (·.1 == name)).map (·.2)
  | _ => none

namespace Envelope

/-- An envelope with data, and without an error. -/
structure TellsSuccess (e : Envelope) : Prop where
  status : e.toJson.field? "status" = some (.text "ok")
  data : ∃ value, e.toJson.field? "data" = some value ∧ value ≠ .null
  no_error : e.toJson.field? "error" = none

/-- An envelope with an error, and without data. -/
structure TellsFailure (e : Envelope) : Prop where
  status : e.toJson.field? "status" = some (.text "error")
  error : ∃ f, e.toJson.field? "error" = some (failureJson f)
  no_data : e.toJson.field? "data" = none

/-- There is something in the envelope. -/
def HasData (e : Envelope) : Prop :=
  ∃ value, e.outcome = .data value ∧ value ≠ .null

theorem HasData.tellsSuccess {e : Envelope} (h : e.HasData) : e.TellsSuccess := by
  obtain ⟨value, houtcome, hvalue⟩ := h
  refine ⟨?_, ⟨value, ?_, hvalue⟩, ?_⟩
  · simp [toJson, Json.field?, houtcome, outcomeFields]
  · simp [toJson, Json.field?, houtcome, outcomeFields]
  · -- the reasons for a cut are no error
    rw [toJson, houtcome]
    split <;> simp [Json.field?, outcomeFields]

theorem tellsFailure_failure (f : Failure) : (failure f).TellsFailure :=
  ⟨rfl, ⟨f, rfl⟩, rfl⟩

theorem outcome_truncated (e : Envelope) (reason : Truncation) :
    (e.truncated reason).outcome = e.outcome := by
  rw [truncated]
  split <;> rfl

theorem hasData_success {value : Json} (h : value ≠ .null) : (success value).HasData :=
  ⟨value, rfl, h⟩

end Envelope

namespace CommandLine

open Envelope

theorem hasData_truncatedIf {e : Envelope} (h : e.HasData) (holds : Bool) (reason : Truncation) :
    (truncatedIf holds reason e).HasData := by
  rw [truncatedIf]
  split
  · rw [HasData, outcome_truncated]
    exact h
  · exact h

/-! ## Inspections -/

namespace Inspection

variable {disk : Disk} {engine : Engine} {snapshot : String} {e : Envelope}

theorem hasData_ofDocument {ask : Document → Except SnapshotError Envelope}
    (hask : ∀ d e, ask d = .ok e → e.HasData)
    (h : ofDocument disk engine snapshot ask = .ok e) : e.HasData := by
  rw [ofDocument] at h
  split at h
  · cases h
  · next handle _ =>
    cases hanswer : ask handle.document with
    | error reason =>
      rw [hanswer] at h
      cases h
    | ok answer =>
      rw [hanswer] at h
      obtain rfl : answer = e := Except.ok.inj h
      exact hask _ _ hanswer

theorem hasData_ofStructure {ask : StructuralQueries → Json} (hask : ∀ q, ask q ≠ .null)
    (h : ofStructure disk engine snapshot ask = .ok e) : e.HasData := by
  rw [ofStructure] at h
  split at h
  · cases h
  · next queries _ =>
    obtain rfl := Except.ok.inj h
    exact hasData_success (hask queries)

/-- A result that is written down as an envelope. -/
theorem hasData_of_map {α : Type} {result : Except SnapshotError α} {write : α → Envelope}
    (hwrite : ∀ a, (write a).HasData) (h : result.map write = .ok e) : e.HasData := by
  cases result with
  | error reason => cases h
  | ok a =>
    obtain rfl := Except.ok.inj h
    exact hwrite a

theorem hasData_ofCommands [Regexes] [Sorting] {maxHits : Nat} {commands : List String}
    (h : ofCommands disk engine snapshot maxHits commands = some (.ok e)) : e.HasData := by
  rw [ofCommands] at h
  split at h
  · cases h
  · obtain ⟨steps, -, hsteps⟩ := Option.map_eq_some_iff.1 h
    obtain rfl := Except.ok.inj hsteps
    exact hasData_success nofun

/-- **An inspection that answers** does so with data. -/
theorem hasData_of_answer [Regexes] [Sorting] {i : Inspection} {c : EngineConfig}
    (h : i.answer disk c snapshot = some (.ok e)) : e.HasData := by
  rw [answer.eq_def] at h
  cases i with
  | eval commands maxHits => exact hasData_ofCommands h
  | search pattern options =>
    refine hasData_ofDocument (fun d answer hanswer => ?_) (Option.some.inj h)
    refine hasData_of_map (fun page => ?_) hanswer
    have hpage : (success page.toJson).HasData := hasData_success nofun
    exact hasData_truncatedIf hpage ..
  | context file line before after =>
    refine hasData_ofDocument (fun d answer hanswer => ?_) (Option.some.inj h)
    refine hasData_of_map (fun window => ?_) hanswer
    exact hasData_success nofun
  | imports | importers | exporters | cycles | impact =>
    refine hasData_ofStructure (fun q => ?_) (Option.some.inj h)
    exact nofun
  | stats =>
    refine hasData_ofDocument (fun d answer hanswer => ?_) (Option.some.inj h)
    obtain rfl := Except.ok.inj hanswer
    exact hasData_success nofun

/-- An inspection breaks off in none of its commands, if it has any. -/
def RunsThrough [Regexes] [Sorting] (i : Inspection) (disk : Disk) (c : EngineConfig)
    (snapshot : String) : Prop :=
  match i with
  | eval commands maxHits =>
    ∀ handle, ((Engine.ofConfig c).load disk snapshot).1 = .ok handle →
      let source := Source.withMaxHits { document := handle.document } (maxHits.getD c.maxHits)
      ∀ o ∈ evalOutcomes source commands, o.breaksOff = false
  | _ => True

theorem answer_eq_none_iff [Regexes] [Sorting] {i : Inspection} {c : EngineConfig} :
    i.answer disk c snapshot = none ↔ ¬ i.RunsThrough disk c snapshot := by
  cases i with
  | eval commands maxHits =>
    rw [answer, ofCommands, RunsThrough]
    cases ((Engine.ofConfig c).load disk snapshot).1 with
    | error e =>
      refine iff_of_false (Option.some_ne_none _) fun hnot => hnot fun handle hload => ?_
      cases hload
    | ok handle =>
      simp only [evalSteps_eq, CommandOutcome.steps?, Option.map_eq_none_iff]
      simp
  | search | context | imports | importers | exporters | cycles | impact | stats =>
    exact iff_of_false (Option.some_ne_none _) fun hnot => hnot trivial

end Inspection

/-! ## Runs -/

/-- A run that prints one envelope, which tells how it ended. -/
structure Run.Answers (r : Run) (e : Envelope) : Prop where
  output : r.output = envelopeText e
  ends : ∃ n, r.exit = .code n
  success : r.exit = .code 0 → e.TellsSuccess
  failure : r.exit ≠ .code 0 → e.TellsFailure

/-- A run that prints nothing, and does not end with success. -/
structure Run.Silent (r : Run) : Prop where
  output : r.output = ""
  exit : r.exit ≠ .code 0

theorem Run.Silent.not_answers {r : Run} (h : r.Silent) (e : Envelope) : ¬ r.Answers e := by
  intro hanswers
  have htext : (Run.envelopeText e).length = 0 := by
    rw [← hanswers.output, h.output]
    rfl
  rw [Run.envelopeText, String.length_append] at htext
  have hline : ("\n" : String).length = 1 := rfl
  omega

theorem silent_failed (message : String) : (Run.failed message).Silent :=
  ⟨rfl, nofun⟩

theorem silent_aborted : Run.aborted.Silent :=
  ⟨rfl, nofun⟩

/-- The commands that write JSON. -/
def Request.writesJson : Request → Bool
  | .analyze _ _ options => options.json
  | .inspect _ _ => true

theorem answers_ofAnswer {a : Answered} (h : ∀ e, a = .ok e → e.HasData) :
    ∃ e, (Run.ofAnswer a).Answers e := by
  cases a with
  | error reason => exact ⟨_, rfl, ⟨1, rfl⟩, nofun, fun _ => tellsFailure_failure _⟩
  | ok e => exact ⟨e, rfl, ⟨0, rfl⟩, fun _ => (h e rfl).tellsSuccess, fun hcode => absurd rfl hcode⟩

theorem answers_fullRun (ending : Except AnalyzeError Analysis) :
    ∃ e, (fullRun ending).Answers e := by
  refine answers_ofAnswer fun e he => ?_
  cases ending with
  | error reason => cases he
  | ok a =>
    obtain rfl := Except.ok.inj he
    have hdata : (Envelope.success a.toJson).HasData := hasData_success nofun
    exact hasData_truncatedIf (hasData_truncatedIf hdata ..) ..

/-- What is said besides, and what is asked of a server, is no part of the answer. -/
theorem Run.Answers.withMessages {r : Run} {e : Envelope} (h : r.Answers e) (messages : List String)
    (requests : List ChatRequest) : { r with messages, requests : Run }.Answers e :=
  ⟨h.output, h.ends, h.success, h.failure⟩

theorem Run.Silent.withMessages {r : Run} (h : r.Silent) (messages : List String)
    (requests : List ChatRequest) : { r with messages, requests : Run }.Silent :=
  ⟨h.output, h.exit⟩

/-! ## Requests -/

/-- A session comes to an analysis, or a call of it fails. -/
def Concludes : Except Interruption Analysis → Prop
  | .ok _ | .error (.failed _) => True
  | .error .waiting | .error .overflowed | .error .brokenOff => False

theorem answers_sessionRun {ending : Except Interruption Analysis} (h : Concludes ending) :
    ∃ e, (sessionRun true ending).Answers e := by
  match ending, h with
  | .ok a, _ => exact answers_fullRun (.ok a)
  | .error (.failed e), _ => exact answers_fullRun (.error (.provider e))

theorem silent_sessionRun {ending : Except Interruption Analysis} (h : ¬ Concludes ending) :
    (sessionRun true ending).Silent := by
  match ending, h with
  | .ok _, h | .error (.failed _), h => exact absurd trivial h
  | .error .waiting, _ => exact ⟨rfl, nofun⟩
  | .error .overflowed, _ | .error .brokenOff, _ => exact silent_aborted

section

variable [Regexes] [Sorting]

/-- Nothing keeps a request from its end. There is room for a cache; an analysis has a client, and its
session concludes, if there is a snapshot to talk about; an inspection does not break off. -/
def Request.Completes (r : Request) (s : Surroundings) (c : Config) : Prop :=
  s.roomFor c.engine.cacheCapacity = true ∧
    match r with
    | .analyze snapshot query o => s.clientFault? = none ∧
        ∀ conv, converse s (o.apply c) snapshot query = .ok conv → Concludes conv.ending
    | .inspect snapshot i => i.RunsThrough s.disk c.engine snapshot

variable {s : Surroundings} {c : Config} {snapshot query : String}

theorem analyze_cases {o : AnalyzeOptions} (h : o.json = true) :
    ((Request.analyze snapshot query o).Completes s c ∧
        ∃ e, (analyze s c snapshot query o).Answers e) ∨
      (¬ (Request.analyze snapshot query o).Completes s c ∧
        (analyze s c snapshot query o).Silent) := by
  have hcapacity : (o.apply c).engine.cacheCapacity = c.engine.cacheCapacity := rfl
  rw [analyze, Request.Completes, hcapacity]
  cases s.roomFor c.engine.cacheCapacity with
  | false => exact .inr ⟨fun hroom => Bool.false_ne_true hroom.1, silent_aborted⟩
  | true =>
    simp only [Bool.not_true, Bool.false_eq_true, if_false, true_and, h]
    cases s.clientFault? with
    | some reason => exact .inr ⟨nofun, silent_failed _⟩
    | none =>
      simp only [true_and]
      cases converse s (o.apply c) snapshot query with
      | error e => exact .inl ⟨nofun, answers_fullRun (.error (.snapshot e))⟩
      | ok conv =>
        by_cases hends : Concludes conv.ending
        · obtain ⟨e, he⟩ := answers_sessionRun hends
          refine .inl ⟨?_, e, he.withMessages _ _⟩
          rintro _ ⟨⟩
          exact hends
        · exact .inr ⟨fun hall => hends (hall conv rfl),
            (silent_sessionRun hends).withMessages _ _⟩

theorem inspect_cases (i : Inspection) :
    ((Request.inspect snapshot i).Completes s c ∧ ∃ e, (inspect s c snapshot i).Answers e) ∨
      (¬ (Request.inspect snapshot i).Completes s c ∧ (inspect s c snapshot i).Silent) := by
  rw [inspect, Request.Completes]
  cases s.roomFor c.engine.cacheCapacity with
  | false => exact .inr ⟨fun hroom => Bool.false_ne_true hroom.1, silent_aborted⟩
  | true =>
    simp only [Bool.not_true, Bool.false_eq_true, if_false, true_and]
    cases hanswer : i.answer s.disk c.engine snapshot with
    | none => exact .inr ⟨Inspection.answer_eq_none_iff.1 hanswer, silent_aborted⟩
    | some answered =>
      have hthrough : i.RunsThrough s.disk c.engine snapshot := by
        refine Classical.byContradiction fun hnot => ?_
        rw [Inspection.answer_eq_none_iff.2 hnot] at hanswer
        cases hanswer
      refine .inl ⟨hthrough, answers_ofAnswer fun e he => ?_⟩
      exact Inspection.hasData_of_answer (hanswer.trans (congrArg some he))

/-- **A request that writes JSON** completes and answers, or does neither. -/
theorem run_cases {r : Request} (h : r.writesJson = true) :
    (r.Completes s c ∧ ∃ e, (r.run s c).Answers e) ∨ (¬ r.Completes s c ∧ (r.run s c).Silent) := by
  cases r with
  | analyze snapshot query options => exact analyze_cases h
  | inspect snapshot inspection => exact inspect_cases inspection

/-- **A command whose answer is JSON** prints one envelope if and only if its settings can be loaded
and its request completes. Otherwise it prints nothing, and does not end with success; and if it is the
settings that cannot be loaded, it fails with a message. -/
theorem answers_iff {s : Surroundings} {arguments : List String} {i : Invocation}
    (hparse : Invocation.parse arguments = .ok i) (hjson : i.request.writesJson = true) :
    ((∃ e, (run s arguments).Answers e) ↔
      ∃ c, Config.load s.disk s.environment s.accountHome i.configFile = .ok c ∧
        i.request.Completes s c) ∧
    ((¬ ∃ e, (run s arguments).Answers e) → (run s arguments).Silent) ∧
    ∀ reason, Config.load s.disk s.environment s.accountHome i.configFile = .error reason →
      run s arguments = .failed reason.message := by
  have hrun : run s arguments = i.run s := by rw [run, hparse]
  rw [hrun, Invocation.run]
  cases hload : Config.load s.disk s.environment s.accountHome i.configFile with
  | error reason =>
    have hsilent := silent_failed reason.message
    refine ⟨⟨fun ⟨e, he⟩ => absurd he (hsilent.not_answers e), nofun⟩, fun _ => hsilent, ?_⟩
    rintro _ ⟨⟩
    rfl
  | ok c =>
    rcases run_cases (s := s) (c := c) hjson with ⟨hcompletes, hanswers⟩ | ⟨hnot, hsilent⟩
    · exact ⟨⟨fun _ => ⟨c, rfl, hcompletes⟩, fun _ => hanswers⟩, absurd hanswers, nofun⟩
    · refine ⟨⟨fun ⟨e, he⟩ => absurd he (hsilent.not_answers e), ?_⟩, fun _ => hsilent, nofun⟩
      rintro ⟨_, ⟨⟩, hcompletes⟩
      exact absurd hcompletes hnot

end

/-- What a snapshot holds is asked for, with a setting from a variable. -/
theorem answers_iff_of_valid_variable :
    let s : Surroundings := {
      disk := ({} : Disk).put "/snap.txt" (.file "" 0)
      environment := fun name => if name = "NUCLEUS_MAX_TURNS" then some "3" else none
      server := fun _ => .silent }
    ∃ i, Invocation.parse ["stats", "snap.txt"] = .ok i ∧ i.request.writesJson = true ∧
      ∃ e, (run s ["stats", "snap.txt"]).Answers e := by
  intro s
  have hparse : Invocation.parse ["stats", "snap.txt"] = .ok ⟨.inspect "snap.txt" .stats, none⟩ :=
    rfl
  have hcompletes : ∃ c, Config.load s.disk s.environment s.accountHome none = .ok c ∧
      (Request.inspect "snap.txt" .stats).Completes s c := ⟨_, rfl, rfl, trivial⟩
  exact ⟨_, hparse, rfl, (answers_iff hparse rfl).1.2 hcompletes⟩

/-- A variable that is no number fails the same command before it has an envelope to print. -/
theorem not_answers_of_invalid_variable :
    let s : Surroundings := {
      disk := ({} : Disk).put "/snap.txt" (.file "" 0)
      environment := fun name => if name = "NUCLEUS_MAX_TURNS" then some "x" else none
      server := fun _ => .silent }
    (∃ i, Invocation.parse ["stats", "snap.txt"] = .ok i ∧ i.request.writesJson = true) ∧
      run s ["stats", "snap.txt"] = .failed "Invalid value for NUCLEUS_MAX_TURNS: \"x\"" ∧
      ∀ e, ¬(run s ["stats", "snap.txt"]).Answers e := by
  intro s
  have hrun : run s ["stats", "snap.txt"] =
      .failed "Invalid value for NUCLEUS_MAX_TURNS: \"x\"" := by decide +kernel
  refine ⟨⟨_, rfl, rfl⟩, hrun, fun e => ?_⟩
  rw [hrun]
  exact (silent_failed _).not_answers e

end CommandLine

end CodeSnapshot

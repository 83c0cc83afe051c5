import CodeSnapshot.Proofs.Analysis.Turns

/-!
# Accounting — calls, turns and records of a session

The headline **`accounted_start`** counts what a session does, for every question, document, limits and
model: how many calls are made and which of them can fail, and how the turns, the records and the
answer of a session that comes to an analysis belong together.

* **`AnsweredIn`** — the session ends in a turn, whose reply is the first with a final answer.
* **`UsedUp`** — no reply within the turns carries one, and the reply to one more call decides.
-/

namespace CodeSnapshot

namespace Session

variable {s : Session} {model : Model} {k : Nat}

/-! ## The two ways to come to an analysis -/

/-- The analysis of a session that ends in turn `t`: the reply of this turn is the first that
carries an answer. -/
structure AnsweredIn (model : Model) (t calls : Nat) (a : Analysis) : Prop where
  pos : 1 ≤ t
  le_budget : t ≤ a.plan.budget
  earlier : GoesOn model (t - 1)
  reply : ∃ c answer, model (t - 1) = .answered c ∧ Answer.find? c.content = some answer ∧
    a.answerText = answer ∧ a.history.getLast? = some ⟨t, c.content, .final answer false⟩
  success : a.isSuccess = true ∧ a.error? = none
  turns : a.turns = t
  numbers : a.history.map (·.turn) = List.range' 1 t
  calls_eq : calls = t

/-- The reply to the extra call is taken for an answer. -/
structure ForcedTo (a : Analysis) (reply answer : String) : Prop where
  record : a.history.getLast? = some ⟨a.turns, reply, .final answer true⟩
  answer : a.answerText = answer
  success : a.isSuccess = true ∧ a.error? = none

/-- The reply to the extra call gives no answer. -/
structure ExhaustedBy (a : Analysis) (reply : String) : Prop where
  record : a.history.getLast? = some ⟨a.turns, reply, .exhausted⟩
  answer : a.answerText = ""
  failure : a.isSuccess = false ∧ a.error? = some "Max turns reached"

/-- The analysis of a session that uses up its `b` turns: no reply of a turn carries an answer. The
reply to one more call is an answer if it carries one, or else if it says something and holds no
command. -/
structure UsedUp (model : Model) (b calls : Nat) (a : Analysis) : Prop where
  earlier : GoesOn model b
  turns : a.turns = b
  numbers : a.history.map (·.turn) = List.range' 1 b ++ [b]
  calls_eq : calls = b + 1
  reply : ∃ c, model b = .answered c ∧
    (∀ answer, Answer.find? c.content = some answer → ForcedTo a c.content answer) ∧
    (Answer.find? c.content = none → Command.find? c.content = none →
      Text.trimmed c.content ≠ "" → ForcedTo a c.content (Text.trimmed c.content)) ∧
    (Answer.find? c.content = none →
      Command.find? c.content ≠ none ∨ Text.trimmed c.content = "" → ExhaustedBy a c.content)

/-! ## The extra reply -/

theorem forcedAnswer?_of_answer {reply answer : String} (h : Answer.find? reply = some answer) :
    forcedAnswer? reply = some answer := by
  rw [forcedAnswer?, h]

/-- A reply without an answer of its own is the answer, if it says something and is no command. -/
theorem forcedAnswer?_of_no_answer {reply : String} (h : Answer.find? reply = none) :
    forcedAnswer? reply =
      if Command.find? reply = none ∧ Text.trimmed reply ≠ "" then some (Text.trimmed reply)
      else none := by
  rw [forcedAnswer?, h]
  simp

/-- What the analysis after the extra call says, when its reply is taken for an answer. -/
theorem forcedTo_conclude {reply answer : String} (h : forcedAnswer? reply = some answer) :
    ForcedTo (s.conclude reply) reply answer where
  record := by simp [conclude, finish, h]
  answer := by simp [conclude, finish, h, Analysis.answerText]
  success := by simp [conclude, finish, h, Analysis.isSuccess, Analysis.error?]

theorem exhaustedBy_conclude {reply : String} (h : forcedAnswer? reply = none) :
    ExhaustedBy (s.conclude reply) reply where
  record := by simp [conclude, finish, h]
  answer := by simp [conclude, finish, h, Analysis.answerText]
  failure := by
    simp [conclude, finish, h, Analysis.isSuccess, Analysis.error?, Analysis.exhaustedMessage]

section

variable [Regexes] [Sorting]

theorem usedUp_conclude {c : Completion} {heard : Session} (hs : s.history = [])
    (hon : Plays s model s.plan.budget) (hc : model s.plan.budget = .answered c)
    (hhistory : heard.history = (s.after model s.plan.budget).history) (hplan : heard.plan = s.plan) :
    UsedUp model s.plan.budget (s.plan.budget + 1) (heard.conclude c.content) where
  earlier := hon.goesOn
  turns := congrArg Plan.budget hplan
  numbers := by
    simp [conclude, finish, hplan, hhistory, turns_after_history hs hon]
  calls_eq := rfl
  reply := by
    refine ⟨c, hc, fun answer ha => ?_, fun ha hcommand hblank => ?_, fun ha hnot => ?_⟩
    · exact forcedTo_conclude (forcedAnswer?_of_answer ha)
    · exact forcedTo_conclude (by rw [forcedAnswer?_of_no_answer ha, if_pos ⟨hcommand, hblank⟩])
    · refine exhaustedBy_conclude ?_
      rw [forcedAnswer?_of_no_answer ha, if_neg]
      rintro ⟨hcommand, hblank⟩
      exact hnot.elim (absurd hcommand) hblank

theorem answeredIn_finish {c : Completion} {answer : String} {next : Session} (hs : s.history = [])
    (hk : k < s.plan.budget) (hon : Plays s model k) (hc : model k = .answered c)
    (ht : Takes (s.after model k) (k + 1) c (.final answer false) none next) :
    AnsweredIn model (k + 1) (k + 1) (next.finish (some answer) (k + 1)) where
  pos := Nat.succ_pos k
  le_budget := by
    show k + 1 ≤ next.plan.budget
    rw [ht.plan, after_plan]
    exact hk
  earlier := hon.goesOn
  reply := by
    refine ⟨c, answer, hc, ht.interprets.answer_eq, rfl, ?_⟩
    show next.history.getLast? = _
    rw [ht.history, List.getLast?_concat]
  success := ⟨rfl, rfl⟩
  turns := rfl
  numbers := by
    show next.history.map (·.turn) = _
    rw [ht.history, List.map_append, turns_after_history hs hon, List.range'_1_concat,
      Nat.add_comm 1 k]
    rfl
  calls_eq := rfl

/-! ## The accounting of a session -/

/-- What the calls, the ending and the analysis of a session with `b` turns have to do with each
other. -/
structure Accounted (s : Session) (model : Model) (b : Nat) (conv : Conversation) : Prop where
  calls_pos : 1 ≤ conv.calls.length
  calls_le : conv.calls.length ≤ b + 1
  /-- the session fails exactly if its last call does -/
  ending_failed : ∀ e, conv.ending = .error (.failed e) ↔ model (conv.calls.length - 1) = .failed e
  /-- a call that fails is the last one -/
  failed_last : ∀ k e, k < conv.calls.length → model k = .failed e → k + 1 = conv.calls.length
  /-- the session waits for ever exactly if nothing comes of its last call -/
  ending_waiting : conv.ending = .error .waiting ↔ model (conv.calls.length - 1) = .silent
  /-- what else keeps it from an analysis is a last reply that the program breaks off at -/
  stops : ∀ why, conv.ending = .error why →
    Stops (s.after model (conv.calls.length - 1)) (model (conv.calls.length - 1)) why
  budget : ∀ a, conv.ending = .ok a → a.plan.budget = b
  ending_ok : ∀ a, conv.ending = .ok a →
    (∃ t, AnsweredIn model t conv.calls.length a) ∨ UsedUp model b conv.calls.length a

/-- The analysis of a session that comes to one. -/
theorem Ends.analysis {conv : Conversation} (hs : s.history = []) (h : Ends s model conv)
    {a : Analysis} (ha : conv.ending = .ok a) :
    a.plan = s.plan ∧ ((∃ t, AnsweredIn model t conv.calls.length a) ∨
      UsedUp model s.plan.budget conv.calls.length a) := by
  cases h with
  | stopped | cut => cases ha
  | answered k c answer next hk hon hc ht =>
    cases ha
    rw [length_sent]
    exact ⟨ht.plan.trans (after_plan k), .inl ⟨k + 1, answeredIn_finish hs hk hon hc ht⟩⟩
  | forced c heard hon hc husage hhistory hplan =>
    cases ha
    rw [length_sent_concat]
    exact ⟨hplan, .inr (usedUp_conclude hs hon hc hhistory hplan)⟩

/-- A last call that fails, or that nothing comes of, ends the session as it must. -/
theorem Ends.ending_of_last {conv : Conversation} (h : Ends s model conv) :
    (∀ e, model (conv.calls.length - 1) = .failed e → conv.ending = .error (.failed e)) ∧
      (model (conv.calls.length - 1) = .silent → conv.ending = .error .waiting) := by
  cases hending : conv.ending with
  | ok a =>
    obtain ⟨c, hc, -⟩ := h.answered_last hending
    rw [hc]
    exact ⟨nofun, nofun⟩
  | error why =>
    have hwhy := h.stops hending
    generalize model (conv.calls.length - 1) = reply at hwhy
    cases hwhy with
    | unheard hwhy =>
      cases hwhy with
      | failed e =>
        refine ⟨?_, nofun⟩
        rintro _ ⟨⟩
        rfl
      | waiting => exact ⟨nofun, fun _ => rfl⟩
      | overflowed => exact ⟨nofun, nofun⟩
    | brokenOff => exact ⟨nofun, nofun⟩

theorem Stops.reply_eq {reply : Reply} {why : Interruption} (h : Stops s reply why) :
    (∀ e, why = .failed e → reply = .failed e) ∧ (why = .waiting → reply = .silent) := by
  cases h with
  | unheard h =>
    cases h with
    | failed e =>
      refine ⟨?_, nofun⟩
      rintro _ ⟨⟩
      rfl
    | waiting => exact ⟨nofun, fun _ => rfl⟩
    | overflowed => exact ⟨nofun, nofun⟩
  | brokenOff => exact ⟨nofun, nofun⟩

theorem accounted_of_ends {conv : Conversation} (hs : s.history = []) (h : Ends s model conv) :
    Accounted s model s.plan.budget conv := by
  obtain ⟨k, hcalls, hk, hon⟩ := h.calls
  obtain ⟨hfailed, hsilent⟩ := h.ending_of_last
  constructor
  case calls_pos => omega
  case calls_le => omega
  case ending_failed => exact fun e => ⟨fun he => (h.stops he).reply_eq.1 e rfl, hfailed e⟩
  case failed_last =>
    intro j e hj he
    rw [hcalls] at hj ⊢
    rcases Nat.lt_succ_iff_lt_or_eq.1 hj with hlt | rfl
    -- a call before the last one is answered
    · obtain ⟨c, hc, -⟩ := hon.goesOn j hlt
      rw [hc] at he
      cases he
    · rfl
  case ending_waiting => exact ⟨fun he => (h.stops he).reply_eq.2 rfl, hsilent⟩
  case stops => exact fun why => h.stops
  case budget => exact fun a ha => congrArg Plan.budget (h.analysis hs ha).1
  case ending_ok => exact fun a ha => (h.analysis hs ha).2

/-- **The accounting of a session.** With `b` turns, at most `b + 1` calls are made. A session fails
exactly if its last call does, with the error of this call, and no call follows a failure. One that
comes to an analysis ends in the turn whose reply is the first with an answer, or uses up its turns. -/
theorem accounted_start (d : Document) (query : String) (limits : SessionLimits) (model : Model) :
    Accounted (Session.start d query limits) model
      (min (Template.ofQuery query).budget (max 1 limits.maxTurns))
      ((Session.start d query limits).run model) := by
  have hbudget : min (Template.ofQuery query).budget (max 1 limits.maxTurns) =
      (Session.start d query limits).plan.budget := by
    rw [Nat.max_comm]
    rfl
  rw [hbudget]
  exact accounted_of_ends rfl (ends_run _ model)

end

end Session

end CodeSnapshot

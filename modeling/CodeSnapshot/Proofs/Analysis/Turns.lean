import CodeSnapshot.Analysis.Session

/-!
# Turns — the states that a session goes through, and how it ends

`Session.run` plays turns until something keeps it from going on, a reply carries a final answer or the
budget is used up. Everything that is stated about sessions rests on the notions of this module:

* **`Interprets`** — what a turn can make of a reply, one constructor for each kind of turn.
* **`Takes`** — one turn, by what it leaves as it was and what it changes; **`Unheard`** and **`Stops`**
  are the reasons why there is none. `take_cases` says that there are no others.
* **`Session.after`** — the session after its first turns; `run_eq_turns_after` says that a run goes
  through these states.
* **`Ends`** — how a session ends, one constructor for each way; `ends_run` is the inversion of a
  run that the other modules start from.
-/

namespace CodeSnapshot

namespace Session

/-! ## What is heard of a call -/

/-- Why nothing is heard of a call. -/
inductive Unheard (s : Session) : Reply → Interruption → Prop where
  | failed (e : ProviderError) : Unheard s (.failed e) (.failed e)
  | waiting : Unheard s .silent .waiting
  | overflowed (c : Completion) (hsum : s.usage.add? (c.usage.getD {}) = none) :
      Unheard s (.answered c) .overflowed

theorem hear_cases (s : Session) (reply : Reply) :
    (∃ c usage, reply = .answered c ∧ s.usage.add? (c.usage.getD {}) = some usage ∧
      s.hear reply = .ok (c.content,
        { s with messages := s.messages ++ [⟨.assistant, c.content⟩], usage })) ∨
      ∃ why, Unheard s reply why ∧ s.hear reply = .error why := by
  cases reply with
  | failed e => exact .inr ⟨_, .failed e, rfl⟩
  | silent => exact .inr ⟨_, .waiting, rfl⟩
  | answered c =>
    cases hsum : s.usage.add? (c.usage.getD {}) with
    | none => exact .inr ⟨_, .overflowed c hsum, by rw [hear, hsum]⟩
    | some usage => exact .inl ⟨c, usage, rfl, hsum, by rw [hear, hsum]⟩

section

variable [Regexes] [Sorting]

/-! ## What a turn makes of a reply -/

/-- What a reply can come to: an action, and the value of a command that succeeds. -/
inductive Interprets (s : Session) (reply : String) : TurnAction → Option Value → Prop where
  | final (answer : String) (h : Answer.find? reply = some answer) :
      Interprets s reply (.final answer false) none
  | noCommand (h : Answer.find? reply = none) (hcommand : Command.find? reply = none) :
      Interprets s reply .noCommand none
  | command (h : Answer.find? reply = none) (text : String)
      (hcommand : Command.find? reply = some text) (v : Value)
      (hv : s.source.execute text s.bindings = .ok v) :
      Interprets s reply
        (.command text (Text.truncateMarked s.resultChars v.toJson.pretty).1
          (Text.truncateMarked s.resultChars v.toJson.pretty).2) (some v)
  | commandError (h : Answer.find? reply = none) (text : String)
      (hcommand : Command.find? reply = some text) (e : QueryError)
      (he : s.source.execute text s.bindings = .error e) (hbreaks : e.breaksOff = false) :
      Interprets s reply (.commandError text e.message) none

/-- A reply whose command breaks off. -/
def BreaksOff (s : Session) (reply : String) : Prop :=
  Answer.find? reply = none ∧ ∃ text e, Command.find? reply = some text ∧
    s.source.execute text s.bindings = .error e ∧ e.breaksOff = true

theorem interpret_cases (s : Session) (reply : String) :
    (∃ action value, s.interpret reply = .ok (action, value) ∧ Interprets s reply action value) ∨
      (s.interpret reply = .error .brokenOff ∧ s.BreaksOff reply) := by
  rw [interpret]
  cases h : Answer.find? reply with
  | some answer => exact .inl ⟨_, _, rfl, .final answer h⟩
  | none =>
    cases hcommand : Command.find? reply with
    | none => exact .inl ⟨_, _, rfl, .noCommand h hcommand⟩
    | some text =>
      simp only
      cases hv : s.source.execute text s.bindings with
      | ok v => exact .inl ⟨_, _, rfl, .command h text hcommand v hv⟩
      | error e =>
        cases hbreaks : e.breaksOff with
        | false =>
          exact .inl ⟨_, _, by simp [hbreaks], .commandError h text hcommand e hv hbreaks⟩
        | true => exact .inr ⟨by simp [hbreaks], h, text, e, hcommand, hv, hbreaks⟩

/-- A final answer comes of a reply that carries it, and of no other. -/
theorem Interprets.answer_eq {s : Session} {reply : String} {action : TurnAction}
    {value : Option Value} (h : Interprets s reply action value) :
    Answer.find? reply = match action with
      | .final answer _ => some answer
      | _ => none := by
  cases h with
  | final answer h => exact h
  | noCommand h | command h | commandError h => exact h

/-! ## One turn -/

/-- Why there is no turn. -/
inductive Stops (s : Session) : Reply → Interruption → Prop where
  | unheard {reply : Reply} {why : Interruption} (h : Unheard s reply why) : Stops s reply why
  | brokenOff (c : Completion) (usage : TokenUsage)
      (hsum : s.usage.add? (c.usage.getD {}) = some usage) (h : s.BreaksOff c.content) :
      Stops s (.answered c) .brokenOff

/-- One turn, with the answer of its call, what is made of it, and the session afterwards. -/
structure Takes (s : Session) (turn : Nat) (c : Completion) (action : TurnAction)
    (value : Option Value) (next : Session) : Prop where
  interprets : Interprets s c.content action value
  usage : s.usage.add? (c.usage.getD {}) = some next.usage
  messages : next.messages = s.messages ++ [⟨.assistant, c.content⟩] ++
    Guidance.messages s.plan.budget turn action
  bindings : next.bindings = value.elim s.bindings (s.bindings.record turn)
  history : next.history = s.history ++ [⟨turn, c.content, action⟩]
  results : next.results = s.results ++
    (action.command?.bind fun command => value.map fun v => (turn, command, v)).toList
  plan : next.plan = s.plan
  source : next.source = s.source
  resultChars : next.resultChars = s.resultChars

theorem takes_note {s : Session} {turn : Nat} {c : Completion} {action : TurnAction}
    {value : Option Value} {usage : TokenUsage} (hi : Interprets s c.content action value)
    (hsum : s.usage.add? (c.usage.getD {}) = some usage) :
    let messages := s.messages ++ [⟨.assistant, c.content⟩]
    Takes s turn c action value
      (note { s with messages, usage } turn c.content action value) := by
  intro messages
  -- only a command that succeeds gives a value, and only then is something bound
  cases hi with
  | command h text hcommand v hv =>
    exact ⟨.command h text hcommand v hv, hsum, rfl, rfl, rfl, rfl, rfl, rfl, rfl⟩
  | final answer h =>
    exact ⟨.final answer h, hsum, rfl, rfl, rfl, (List.append_nil _).symm, rfl, rfl, rfl⟩
  | noCommand h hcommand =>
    exact ⟨.noCommand h hcommand, hsum, rfl, rfl, rfl, (List.append_nil _).symm, rfl, rfl, rfl⟩
  | commandError h text hcommand e he hbreaks =>
    exact ⟨.commandError h text hcommand e he hbreaks, hsum, rfl, rfl, rfl,
      (List.append_nil _).symm, rfl, rfl, rfl⟩

/-- **What comes of a call** is a turn, or the end of the session. -/
theorem take_cases (s : Session) (turn : Nat) (reply : Reply) :
    (∃ c action value next, reply = .answered c ∧ s.take turn reply = .ok (action, next) ∧
      Takes s turn c action value next) ∨
      ∃ why, s.take turn reply = .error why ∧ Stops s reply why := by
  rcases s.hear_cases reply with ⟨c, usage, rfl, hsum, hheard⟩ | ⟨why, hwhy, hheard⟩
  · -- what is made of a reply does not depend on what was said before
    rcases s.interpret_cases c.content with ⟨action, value, hmade, hi⟩ | ⟨hmade, hbreaks⟩
    · refine .inl ⟨c, action, value, _, rfl, ?_, takes_note hi hsum⟩
      rw [take, hheard]
      show Except.map _ (s.interpret c.content) = _
      rw [hmade]
      rfl
    · refine .inr ⟨_, ?_, .brokenOff c usage hsum hbreaks⟩
      rw [take, hheard]
      show Except.map _ (s.interpret c.content) = _
      rw [hmade]
      rfl
  · refine .inr ⟨why, ?_, .unheard hwhy⟩
    rw [take, hheard]
    rfl

/-! ## The states of a run -/

/-- The session after its first turns, as far as there are any. -/
def after (s : Session) (model : Model) : Nat → Session
  | 0 => s
  | k + 1 =>
    match (s.after model k).take (k + 1) (model k) with
    | .ok (_, next) => next
    | .error _ => s.after model k

/-- The first calls are answered, and no answer is final. -/
def GoesOn (model : Model) (k : Nat) : Prop :=
  ∀ i < k, ∃ c, model i = .answered c ∧ Answer.find? c.content = none

/-- The session goes on behind its first turns. -/
def Plays (s : Session) (model : Model) (k : Nat) : Prop :=
  ∀ i < k, ∃ c action value, model i = .answered c ∧ Answer.find? c.content = none ∧
    (s.after model i).take (i + 1) (model i) = .ok (action, s.after model (i + 1)) ∧
    Takes (s.after model i) (i + 1) c action value (s.after model (i + 1))

/-- What is sent with the calls of the first turns. -/
def sent (s : Session) (model : Model) (k : Nat) : List (List ChatMessage) :=
  (List.range k).map fun i => (s.after model i).messages

/-- How a session ends, with the conversation that is left. -/
inductive Ends (s : Session) (model : Model) : Conversation → Prop where
  /-- a turn comes to nothing -/
  | stopped (k : Nat) (why : Interruption) (hk : k < s.plan.budget) (hon : Plays s model k)
      (hwhy : Stops (s.after model k) (model k) why) :
      Ends s model ⟨s.sent model (k + 1), (s.after model k).results, .error why⟩
  /-- a reply within the turns carries a final answer -/
  | answered (k : Nat) (c : Completion) (answer : String) (next : Session)
      (hk : k < s.plan.budget) (hon : Plays s model k) (hc : model k = .answered c)
      (ht : Takes (s.after model k) (k + 1) c (.final answer false) none next) :
      Ends s model ⟨s.sent model (k + 1), next.results, .ok (next.finish (some answer) (k + 1))⟩
  /-- the turns are used up, and one more call comes to nothing -/
  | cut (why : Interruption) (hon : Plays s model s.plan.budget)
      (hwhy : Unheard (s.after model s.plan.budget) (model s.plan.budget) why) :
      Ends s model
        ⟨s.sent model s.plan.budget ++ [(s.after model s.plan.budget).askAgain.messages],
          (s.after model s.plan.budget).results, .error why⟩
  /-- the turns are used up, and one more call is answered -/
  | forced (c : Completion) (heard : Session) (hon : Plays s model s.plan.budget)
      (hc : model s.plan.budget = .answered c)
      (husage : (s.after model s.plan.budget).usage.add? (c.usage.getD {}) = some heard.usage)
      (hhistory : heard.history = (s.after model s.plan.budget).history)
      (hplan : heard.plan = s.plan) :
      Ends s model
        ⟨s.sent model s.plan.budget ++ [(s.after model s.plan.budget).askAgain.messages],
          (s.after model s.plan.budget).results, .ok (heard.conclude c.content)⟩

section

variable {s : Session} {model : Model} {k : Nat} {c : Completion} {action : TurnAction}
  {next : Session}

theorem after_succ (h : (s.after model k).take (k + 1) (model k) = .ok (action, next)) :
    s.after model (k + 1) = next := by
  rw [after, h]

theorem Plays.zero : Plays s model 0 :=
  fun i hi => absurd hi (Nat.not_lt_zero i)

theorem Plays.mono {j : Nat} (hon : Plays s model k) (hj : j ≤ k) : Plays s model j :=
  fun i hi => hon i (Nat.lt_of_lt_of_le hi hj)

theorem Plays.goesOn (hon : Plays s model k) : GoesOn model k := by
  intro i hi
  obtain ⟨c, -, -, hc, ha, -⟩ := hon i hi
  exact ⟨c, hc, ha⟩

theorem Plays.succ {value : Option Value} (hon : Plays s model k) (hc : model k = .answered c)
    (ha : Answer.find? c.content = none)
    (htake : (s.after model k).take (k + 1) (model k) = .ok (action, next))
    (ht : Takes (s.after model k) (k + 1) c action value next) : Plays s model (k + 1) := by
  intro i hi
  rcases Nat.lt_succ_iff_lt_or_eq.1 hi with hlt | rfl
  · exact hon i hlt
  · rw [after_succ htake]
    exact ⟨c, action, value, hc, ha, htake, ht⟩

/-- **The last of some turns.** -/
theorem Plays.last (hon : Plays s model (k + 1)) :
    ∃ c action value, model k = .answered c ∧ Answer.find? c.content = none ∧
      Takes (s.after model k) (k + 1) c action value (s.after model (k + 1)) := by
  obtain ⟨c, action, value, hc, ha, -, ht⟩ := hon k (Nat.lt_succ_self k)
  exact ⟨c, action, value, hc, ha, ht⟩

theorem length_sent : (s.sent model k).length = k := by
  simp [sent]

theorem length_sent_concat {last : List ChatMessage} :
    (s.sent model k ++ [last]).length = k + 1 := by
  rw [List.length_append, length_sent]
  rfl

theorem sent_succ : s.sent model (k + 1) = s.sent model k ++ [(s.after model k).messages] := by
  simp [sent, List.range_succ]

/-- No turn changes what the session was started with. -/
theorem after_settings : ∀ k, (s.after model k).plan = s.plan ∧
    (s.after model k).source = s.source ∧ (s.after model k).resultChars = s.resultChars
  | 0 => ⟨rfl, rfl, rfl⟩
  | k + 1 => by
    have ih := after_settings k
    rcases (s.after model k).take_cases (k + 1) (model k) with
      ⟨c, action, value, next, -, htake, ht⟩ | ⟨why, htake, -⟩
    · rw [after_succ htake, ht.plan, ht.source, ht.resultChars]
      exact ih
    · rw [after, htake]
      exact ih

theorem after_plan (k : Nat) : (s.after model k).plan = s.plan :=
  (after_settings k).1

theorem after_source (k : Nat) : (s.after model k).source = s.source :=
  (after_settings k).2.1

theorem after_resultChars (k : Nat) : (s.after model k).resultChars = s.resultChars :=
  (after_settings k).2.2

/-- The records of the first turns are numbered from one. -/
theorem turns_after_history (hs : s.history = []) (hon : Plays s model k) :
    (s.after model k).history.map (·.turn) = List.range' 1 k := by
  induction k with
  | zero => simp [after, hs]
  | succ k ih =>
    obtain ⟨c, action, value, -, -, ht⟩ := hon.last
    rw [ht.history, List.map_append, ih (hon.mono (Nat.le_succ k)), List.range'_1_concat,
      Nat.add_comm 1 k]
    rfl

theorem length_after_history (hs : s.history = []) (hon : Plays s model k) :
    (s.after model k).history.length = k := by
  rw [← List.length_map (·.turn), turns_after_history hs hon, List.length_range']

/-- A turn that does not end the session is followed by the next one. -/
theorem turns_succ {left : Nat} (hon : Plays s model (k + 1)) :
    (s.after model k).turns model (s.sent model k) (left + 1) =
      (s.after model (k + 1)).turns model (s.sent model (k + 1)) left := by
  obtain ⟨c, action, value, -, ha, htake, ht⟩ := hon k (Nat.lt_succ_self k)
  rw [turns, length_sent]
  simp only [← sent_succ, length_sent]
  rw [htake]
  -- the loop looks at the action alone, which is a final one only with an answer in the reply
  have hanswer := ht.interprets.answer_eq
  rw [ha] at hanswer
  cases action with
  | final answer forced => cases hanswer
  | command | commandError | noCommand | exhausted => rfl

/-- **A run goes through the states after its turns.** -/
theorem run_eq_turns_after (hon : Plays s model k) (hk : k ≤ s.plan.budget) :
    s.run model = (s.after model k).turns model (s.sent model k) (s.plan.budget - k) := by
  induction k with
  | zero => rfl
  | succ k ih =>
    rw [ih (hon.mono (Nat.le_succ k)) (by omega),
      show s.plan.budget - k = s.plan.budget - (k + 1) + 1 from by omega, turns_succ hon]

/-- Behind the last turn the session ends with one more call. -/
theorem ends_force (hon : Plays s model s.plan.budget) :
    Ends s model ((s.after model s.plan.budget).turns model (s.sent model s.plan.budget) 0) := by
  rw [turns, length_sent]
  rcases (s.after model s.plan.budget).askAgain.hear_cases (model s.plan.budget) with
    ⟨c, usage, hc, hsum, hheard⟩ | ⟨why, hwhy, hheard⟩
  · rw [force, hheard]
    exact .forced c _ hon hc hsum rfl (after_plan _)
  · rw [force, hheard]
    refine .cut why hon ?_
    -- what the request for an answer adds is of no consequence here
    generalize model s.plan.budget = reply at hwhy ⊢
    cases hwhy with
    | failed e => exact .failed e
    | waiting => exact .waiting
    | overflowed c hsum => exact .overflowed c hsum

/-- From the state after some turns the session ends in one of these ways. Induction on the turns
that are left. -/
theorem ends_turns (left : Nat) (hleft : k + left = s.plan.budget) (hon : Plays s model k) :
    Ends s model ((s.after model k).turns model (s.sent model k) left) := by
  induction left generalizing k with
  | zero =>
    obtain rfl : k = s.plan.budget := by omega
    exact ends_force hon
  | succ left ih =>
    rcases (s.after model k).take_cases (k + 1) (model k) with
      ⟨c, action, value, next, hc, htake, ht⟩ | ⟨why, htake, hwhy⟩
    · cases ha : Answer.find? c.content with
      | none =>
        have hon' := hon.succ hc ha htake ht
        rw [turns_succ hon']
        exact ih (by omega) hon'
      | some answer =>
        have hi := ht.interprets
        cases hi with
        | final answer h =>
          rw [turns, length_sent]
          simp only [← sent_succ, length_sent]
          rw [htake]
          exact .answered k c answer next (by omega) hon hc ht
        | noCommand h | command h | commandError h =>
          rw [h] at ha
          cases ha
    · rw [turns, length_sent]
      simp only [← sent_succ, length_sent]
      rw [htake]
      exact .stopped k why (by omega) hon hwhy

/-- **How a run ends.** -/
theorem ends_run (s : Session) (model : Model) : Ends s model (s.run model) := by
  rw [run_eq_turns_after Plays.zero (Nat.zero_le _)]
  exact ends_turns s.plan.budget (by omega) Plays.zero

/-- The turns before the last call are played. -/
theorem Ends.calls {conv : Conversation} (h : Ends s model conv) :
    ∃ k, conv.calls.length = k + 1 ∧ k ≤ s.plan.budget ∧ Plays s model k := by
  cases h with
  | stopped k why hk hon hwhy => exact ⟨k, length_sent, Nat.le_of_lt hk, hon⟩
  | answered k c answer next hk hon hc ht => exact ⟨k, length_sent, Nat.le_of_lt hk, hon⟩
  | cut why hon hwhy => exact ⟨s.plan.budget, length_sent_concat, Nat.le_refl _, hon⟩
  | forced c heard hon hc husage hhistory hplan =>
    exact ⟨s.plan.budget, length_sent_concat, Nat.le_refl _, hon⟩

/-- **A session without an analysis** stops at its last call. -/
theorem Ends.stops {conv : Conversation} (h : Ends s model conv) {why : Interruption}
    (hending : conv.ending = .error why) :
    Stops (s.after model (conv.calls.length - 1)) (model (conv.calls.length - 1)) why := by
  cases h with
  | stopped k why' hk hon hwhy =>
    cases hending
    rwa [length_sent, Nat.add_sub_cancel]
  | answered => cases hending
  | cut why' hon hwhy =>
    cases hending
    rw [length_sent_concat, Nat.add_sub_cancel]
    exact .unheard hwhy
  | forced => cases hending

/-- The call that a session with an analysis ends with is answered. -/
theorem Ends.answered_last {conv : Conversation} (h : Ends s model conv) {a : Analysis}
    (ha : conv.ending = .ok a) : ∃ c, model (conv.calls.length - 1) = .answered c ∧
      (s.after model (conv.calls.length - 1)).usage.add? (c.usage.getD {}) = some a.usage := by
  cases h with
  | stopped => cases ha
  | answered k c answer next hk hon hc ht =>
    cases ha
    rw [length_sent, Nat.add_sub_cancel]
    exact ⟨c, hc, ht.usage⟩
  | cut => cases ha
  | forced c heard hon hc husage hhistory hplan =>
    cases ha
    rw [length_sent_concat, Nat.add_sub_cancel]
    exact ⟨c, hc, husage⟩

theorem take_sent {n : Nat} (hk : k ≤ n) : (s.sent model n).take k = s.sent model k := by
  rw [sent, ← List.map_take, List.take_range, Nat.min_eq_left hk]
  rfl

/-- The calls before a call are those of the turns. -/
theorem Ends.take_calls {conv : Conversation} (h : Ends s model conv)
    (hk : k < conv.calls.length) : conv.calls.take k = s.sent model k := by
  have hwithin {n : Nat} (hk : k < (s.sent model (n + 1)).length) :
      (s.sent model (n + 1)).take k = s.sent model k := by
    rw [length_sent] at hk
    exact take_sent (Nat.le_of_lt hk)
  have hbehind {last : List ChatMessage}
      (hk : k < (s.sent model s.plan.budget ++ [last]).length) :
      (s.sent model s.plan.budget ++ [last]).take k = s.sent model k := by
    rw [length_sent_concat] at hk
    have hle : k ≤ s.plan.budget := Nat.le_of_lt_succ hk
    rw [List.take_append_of_le_length (by rw [length_sent]; exact hle)]
    exact take_sent hle
  cases h with
  | stopped => exact hwithin hk
  | answered => exact hwithin hk
  | cut => exact hbehind hk
  | forced => exact hbehind hk

/-- **The states of a run.** At each call, the run goes on from the state after the turns before. -/
theorem run_reaches (hk : k < (s.run model).calls.length) :
    s.run model =
      (s.after model k).turns model ((s.run model).calls.take k) (s.plan.budget - k) := by
  obtain ⟨n, hcalls, hn, hon⟩ := (ends_run s model).calls
  rw [(ends_run s model).take_calls hk]
  exact run_eq_turns_after (hon.mono (by omega)) (by omega)

end

end

end Session

end CodeSnapshot

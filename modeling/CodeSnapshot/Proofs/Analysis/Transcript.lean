import CodeSnapshot.Proofs.Analysis.Turns

/-!
# Transcript — what the model is shown

What is sent with a call is told by the records of the turns before it: the opening of the session,
two messages for each record, and the request for an answer behind the last turn.

* **`TurnRecord.exchange`** — the two messages of a turn, read off its record alone.
* **`messages_after`** — the session after some turns holds the exchanges of its records. Every kind
  of turn appends its messages and its record in an order of its own; `take_messages` is the one
  place that looks at them.
* **`transcribed_start`** — the headline: the calls of a session, for every question, document, limits and
  model, in one statement with the records that they are told from.
-/

namespace CodeSnapshot

/-! ## Messages told from records -/

namespace TurnRecord

/-- What is said after a turn. -/
def remark (r : TurnRecord) : String :=
  match r.action with
  | .command _ result _ => s!"Result of turn {r.turn}:\n" ++ result
  | .commandError _ error => s!"Error in turn {r.turn}: " ++ error
  | .noCommand | .final .. | .exhausted => Guidance.corrective

/-- The messages of a turn: the whole reply, and what is said after it. In the last two turns the
nudge is added. -/
def exchange (budget : Nat) (r : TurnRecord) : List ChatMessage :=
  [⟨.assistant, r.response⟩,
    ⟨.user, if budget - 1 ≤ r.turn then r.remark ++ "\n\n" ++ Guidance.nudge else r.remark⟩]

end TurnRecord

/-- The replies among some messages. -/
def repliesIn (messages : List ChatMessage) : List String :=
  (messages.filter (·.role = .assistant)).map (·.content)

theorem repliesIn_append (l m : List ChatMessage) :
    repliesIn (l ++ m) = repliesIn l ++ repliesIn m := by
  rw [repliesIn, List.filter_append, List.map_append]
  rfl

/-- Each record has its reply in the messages, once. -/
theorem repliesIn_exchanges (budget : Nat) (records : List TurnRecord) :
    repliesIn (records.flatMap (·.exchange budget)) = records.map (·.response) := by
  induction records with
  | nil => rfl
  | cons r records ih =>
    rw [List.flatMap_cons, repliesIn_append, ih]
    rfl

/-- A text as it is shown: the whole of it, or its first characters with a mark behind. -/
def Text.ShownAs (limit : Nat) (whole shown : String) (truncated : Bool) : Prop :=
  (truncated = false ∧ whole.length ≤ limit ∧ shown = whole) ∨
  (truncated = true ∧ limit < whole.length ∧
    shown = String.ofList (whole.toList.take limit) ++
      s!"\n... [truncated: showing {limit} of {whole.length} chars]")

theorem Text.shownAs_truncateMarked (limit : Nat) (whole : String) :
    Text.ShownAs limit whole (Text.truncateMarked limit whole).1
      (Text.truncateMarked limit whole).2 := by
  rcases Nat.lt_or_ge limit whole.length with hlt | hle
  · rw [Text.truncateMarked_of_lt_length hlt]
    exact .inr ⟨rfl, hlt, rfl⟩
  · rw [Text.truncateMarked_of_length_le hle]
    exact .inl ⟨rfl, hle, rfl⟩

/-- What a model says in reply. -/
def Reply.content? : Reply → Option String
  | .answered c => some c.content
  | .failed _ | .silent => none

namespace Session

variable {s : Session} {model : Model} {k : Nat}

/-! ## One turn -/

/-- The nudge comes with the last two turns. -/
theorem nudged_eq (budget turn : Nat) (text : String) :
    Guidance.nudged budget turn text =
      if budget - 1 ≤ turn then text ++ "\n\n" ++ Guidance.nudge else text := by
  rw [Guidance.nudged]
  by_cases h : budget < turn + 2
  · rw [if_pos h, if_pos (by omega)]
  · rw [if_neg h, if_neg (by omega)]

section

variable [Regexes] [Sorting]

/-- What a turn appends to the messages is the exchange of the record that it leaves. -/
theorem exchange_of_interprets {reply : String} {action : TurnAction} {value : Option Value}
    (budget turn : Nat) (hi : Interprets s reply action value) (ha : Answer.find? reply = none) :
    [⟨.assistant, reply⟩] ++ Guidance.messages budget turn action =
      TurnRecord.exchange budget ⟨turn, reply, action⟩ := by
  cases hi with
  | final answer h => rw [ha] at h; cases h
  | noCommand | command | commandError =>
    rw [TurnRecord.exchange, Guidance.messages, Guidance.feedback?]
    simp only [nudged_eq]
    rfl

theorem Takes.exchange {turn : Nat} {c : Completion} {action : TurnAction} {value : Option Value}
    {next : Session} (ht : Takes s turn c action value next) (ha : Answer.find? c.content = none) :
    next.messages = s.messages ++ TurnRecord.exchange s.plan.budget ⟨turn, c.content, action⟩ := by
  rw [ht.messages, ← exchange_of_interprets s.plan.budget turn ht.interprets ha, List.append_assoc]

/-! ## The states of a run -/

/-- **The messages are told by the records.** Induction on the turns. -/
theorem messages_after (hs : s.history = []) (hon : Plays s model k) :
    (s.after model k).messages =
      s.messages ++ (s.after model k).history.flatMap (·.exchange s.plan.budget) := by
  induction k with
  | zero => simp [after, hs]
  | succ k ih =>
    obtain ⟨c, action, value, hc, ha, ht⟩ := hon.last
    rw [ht.history, List.flatMap_append, ← List.append_assoc, ← ih (hon.mono (Nat.le_succ k)),
      ht.exchange ha, after_plan, List.flatMap_singleton]

/-- A later state keeps the records of an earlier one. -/
theorem history_after_mono (hon : Plays s model k) {j : Nat} (hj : j ≤ k) :
    (s.after model j).history <+: (s.after model k).history := by
  induction k with
  | zero =>
    obtain rfl : j = 0 := by omega
    exact List.prefix_refl _
  | succ k ih =>
    rcases Nat.lt_or_ge k j with hlt | hle
    · obtain rfl : j = k + 1 := by omega
      exact List.prefix_refl _
    · obtain ⟨c, action, value, -, -, ht⟩ := hon.last
      rw [ht.history]
      exact (ih (hon.mono (Nat.le_succ k)) hle).trans (List.prefix_append _ _)

/-- The record of turn `i + 1` is what the turn makes of the reply to call `i`. -/
structure IsRecord (s : Session) (model : Model) (i : Nat) (r : TurnRecord) : Prop where
  turn : r.turn = i + 1
  reply : ∃ c, model i = .answered c ∧ r.response = c.content ∧ Answer.find? c.content = none ∧
    ∃ value, Interprets (s.after model i) c.content r.action value

theorem isRecord_after (hs : s.history = []) (hon : Plays s model k) {i : Nat} {r : TurnRecord}
    (hr : (s.after model k).history[i]? = some r) : IsRecord s model i r := by
  induction k with
  | zero => simp [after, hs] at hr
  | succ k ih =>
    obtain ⟨c, action, value, hc, ha, ht⟩ := hon.last
    have hlen := length_after_history hs (hon.mono (Nat.le_succ k))
    rw [ht.history] at hr
    rcases Nat.lt_or_ge i k with hlt | hle
    · rw [List.getElem?_append_left (by omega)] at hr
      exact ih (hon.mono (Nat.le_succ k)) hr
    · rw [List.getElem?_append_right (by omega), hlen] at hr
      obtain ⟨hi, rfl⟩ := List.getElem?_eq_some_iff.1 hr
      obtain rfl : i = k := by simp at hi; omega
      simp only [Nat.sub_self, List.getElem_cons_zero]
      exact ⟨rfl, c, hc, rfl, ha, value, ht.interprets⟩

/-- The replies on record are those that the model gave. -/
theorem responses_after (hs : s.history = []) (hon : Plays s model k) :
    (s.after model k).history.map (fun r => some r.response) =
      (List.range k).map fun i => (model i).content? := by
  induction k with
  | zero => simp [after, hs]
  | succ k ih =>
    obtain ⟨c, action, value, hc, -, ht⟩ := hon.last
    rw [ht.history, List.map_append, ih (hon.mono (Nat.le_succ k)), List.range_succ,
      List.map_append, List.map_singleton, List.map_singleton, hc]
    rfl

/-- A result on record is the value of the command in the bindings of its turn, as it is shown. -/
def ResultShown (s : Session) (model : Model) (limit : Nat) (r : TurnRecord) : Prop :=
  ∀ text result truncated, r.action = .command text result truncated →
    ∃ v, s.source.execute text (s.after model (r.turn - 1)).bindings = .ok v ∧
      Text.ShownAs limit v.toJson.pretty result truncated

theorem IsRecord.resultShown {i : Nat} {r : TurnRecord} (h : IsRecord s model i r) :
    ResultShown s model s.resultChars r := by
  intro text result truncated haction
  obtain ⟨c, -, -, -, value, hi⟩ := h.reply
  rw [haction] at hi
  cases hi with
  | command _ _ _ v hv =>
    rw [after_source] at hv
    rw [h.turn, Nat.add_sub_cancel, after_resultChars]
    exact ⟨v, hv, Text.shownAs_truncateMarked _ _⟩

/-! ## The calls of a session -/

/-- What is sent with a call within the turns. -/
theorem getElem_sent (hs : s.history = []) {n : Nat} (hk : k < (s.sent model n).length)
    (hon : Plays s model k) :
    (s.sent model n)[k] =
      s.messages ++ (s.after model k).history.flatMap (·.exchange s.plan.budget) := by
  rw [← messages_after hs hon]
  simp [sent]

/-- What is sent with the call behind `k` turns. -/
theorem Ends.call_eq {conv : Conversation} (hs : s.history = []) (h : Ends s model conv)
    (hk : k < conv.calls.length) :
    conv.calls[k] =
      s.messages ++ (s.after model k).history.flatMap (·.exchange s.plan.budget) ++
        if k = s.plan.budget then [⟨.user, Guidance.forceFinal⟩] else [] := by
  have hwithin {n : Nat} (hn : n < s.plan.budget) (hon : Plays s model n)
      (hk : k < (s.sent model (n + 1)).length) :
      (s.sent model (n + 1))[k] =
        s.messages ++ (s.after model k).history.flatMap (·.exchange s.plan.budget) ++
          if k = s.plan.budget then [⟨.user, Guidance.forceFinal⟩] else [] := by
    have hle : k < n + 1 := by rwa [length_sent] at hk
    rw [if_neg (by omega), List.append_nil]
    exact getElem_sent hs hk (hon.mono (by omega))
  have hbehind (hon : Plays s model s.plan.budget)
      (hk : k < (s.sent model s.plan.budget ++
        [(s.after model s.plan.budget).askAgain.messages]).length) :
      (s.sent model s.plan.budget ++ [(s.after model s.plan.budget).askAgain.messages])[k] =
        s.messages ++ (s.after model k).history.flatMap (·.exchange s.plan.budget) ++
          if k = s.plan.budget then [⟨.user, Guidance.forceFinal⟩] else [] := by
    have hle : k < s.plan.budget + 1 := by rwa [length_sent_concat] at hk
    have hlen : (s.sent model s.plan.budget).length = s.plan.budget := length_sent
    rcases Nat.lt_succ_iff_lt_or_eq.1 hle with hlt | rfl
    · rw [if_neg (by omega), List.append_nil, List.getElem_append_left (by omega)]
      exact getElem_sent hs (by omega) (hon.mono (by omega))
    -- the call that asks again
    · rw [if_pos rfl, ← messages_after hs hon, List.getElem_append_right (by omega)]
      simp [hlen, askAgain]
  cases h with
  | stopped n why hn hon hwhy => exact hwithin hn hon hk
  | answered n c answer next hn hon hc ht => exact hwithin hn hon hk
  | cut why hon hwhy => exact hbehind hon hk
  | forced c heard hon hc husage hhistory hplan => exact hbehind hon hk

/-- The records of an analysis: those of the turns before the last call, and one without a command
for the reply to this call. -/
theorem Ends.history {conv : Conversation} (h : Ends s model conv) {a : Analysis}
    (ha : conv.ending = .ok a) :
    ∃ r, a.history = (s.after model (conv.calls.length - 1)).history ++ [r] ∧
      r.action.command? = none := by
  cases h with
  | stopped | cut => cases ha
  | answered k c answer next hk hon hc ht =>
    cases ha
    rw [length_sent]
    exact ⟨_, ht.history, rfl⟩
  | forced c heard hon hc husage hhistory hplan =>
    cases ha
    rw [length_sent_concat, Nat.add_sub_cancel, ← hhistory]
    refine ⟨_, rfl, ?_⟩
    -- the last record holds an answer or none, and a command in neither case
    cases forcedAnswer? c.content <;> rfl

/-- Records are only added, the last of them with the ending. -/
theorem Ends.take_history {conv : Conversation} (hs : s.history = []) (h : Ends s model conv)
    {a : Analysis} (ha : conv.ending = .ok a) (hk : k < conv.calls.length) :
    a.history.take k = (s.after model k).history := by
  obtain ⟨n, hcalls, -, hon⟩ := h.calls
  obtain ⟨last, hlast, -⟩ := h.history ha
  have hprefix : (s.after model k).history <+: a.history := by
    rw [hlast, hcalls, Nat.add_sub_cancel]
    exact (history_after_mono hon (by omega)).trans (List.prefix_append _ _)
  have htake := List.prefix_iff_eq_take.1 hprefix
  rw [length_after_history hs (hon.mono (by omega))] at htake
  exact htake.symm

/-- The calls of a session with `b` turns, told from its records. -/
structure Transcribed (s : Session) (model : Model) (opening : List ChatMessage) (b limit : Nat)
    (conv : Conversation) : Prop where
  /-- the session goes on from its state after the turns before a call -/
  run_eq : ∀ k < conv.calls.length,
    conv = (s.after model k).turns model (conv.calls.take k) (b - k)
  /-- what is sent with a call -/
  call_eq : ∀ k (hk : k < conv.calls.length), conv.calls[k] =
    opening ++ (s.after model k).history.flatMap (·.exchange b) ++
      if k = b then [⟨.user, Guidance.forceFinal⟩] else []
  /-- a call extends the one before it -/
  call_extends : ∀ k (hk : k + 1 < conv.calls.length), conv.calls[k] <+: conv.calls[k + 1]
  /-- the replies that are sent are those that the model gave so far -/
  replies : ∀ k (hk : k < conv.calls.length),
    (repliesIn conv.calls[k]).map some = (List.range k).map fun i => (model i).content?
  /-- the records that the calls are told from -/
  record : ∀ k < conv.calls.length, (s.after model k).history.length = k ∧
    ∀ i r, (s.after model k).history[i]? = some r → IsRecord s model i r
  /-- the records of the analysis are the same -/
  history_take : ∀ a, conv.ending = .ok a →
    ∀ k < conv.calls.length, a.history.take k = (s.after model k).history
  result : ∀ k < conv.calls.length, ∀ r ∈ (s.after model k).history, ResultShown s model limit r
  result_history : ∀ a, conv.ending = .ok a → ∀ r ∈ a.history, ResultShown s model limit r

theorem transcribed_run (hs : s.history = []) (hopening : repliesIn s.messages = []) :
    Transcribed s model s.messages s.plan.budget s.resultChars (s.run model) := by
  have h := ends_run s model
  obtain ⟨n, hcalls, hn, hon⟩ := h.calls
  have hplays {k : Nat} (hk : k < (s.run model).calls.length) : Plays s model k :=
    hon.mono (by omega)
  have hresult {k : Nat} (hk : k < (s.run model).calls.length) :
      ∀ r ∈ (s.after model k).history, ResultShown s model s.resultChars r := by
    intro r hr
    obtain ⟨i, hi⟩ := List.mem_iff_getElem?.1 hr
    exact (isRecord_after hs (hplays hk) hi).resultShown
  constructor
  case run_eq => exact fun k hk => run_reaches hk
  case call_eq => exact fun k hk => h.call_eq hs hk
  case call_extends =>
    intro k hk
    -- a call that is not the last one does not ask again, and its records come first in the next
    rw [h.call_eq hs hk, h.call_eq hs (by omega), if_neg (by omega), List.append_nil]
    obtain ⟨later, hlater⟩ := history_after_mono (hplays hk) (Nat.le_succ k)
    rw [← hlater, List.flatMap_append, ← List.append_assoc, List.append_assoc]
    exact List.prefix_append _ _
  case replies =>
    intro k hk
    have hlast : repliesIn (if k = s.plan.budget then [⟨.user, Guidance.forceFinal⟩] else []) = [] := by
      split <;> rfl
    rw [h.call_eq hs hk, repliesIn_append, repliesIn_append, hopening, hlast, repliesIn_exchanges,
      List.nil_append, List.append_nil, List.map_map]
    exact responses_after hs (hplays hk)
  case record =>
    exact fun k hk => ⟨length_after_history hs (hplays hk),
      fun i r hr => isRecord_after hs (hplays hk) hr⟩
  case result => exact fun k hk => hresult hk
  case history_take => exact fun a ha k hk => h.take_history hs ha hk
  case result_history =>
    intro a ha r hr
    obtain ⟨last, hlast, hcommand⟩ := h.history ha
    rw [hlast] at hr
    rcases List.mem_append.1 hr with hr | hr
    · exact hresult (by omega) r hr
    -- the record of the last reply holds no result
    · obtain rfl := List.mem_singleton.1 hr
      intro text result truncated haction
      rw [haction] at hcommand
      cases hcommand

/-- **What the model is shown.** With each call the opening of the session is sent and, for each
turn before it, the two messages that its record tells; behind the last turn, the request for an
answer follows. -/
theorem transcribed_start (d : Document) (query : String) (limits : SessionLimits) (model : Model) :
    Transcribed (Session.start d query limits) model
      [⟨.system, Briefing.text (Plan.withCeiling query (max 1 limits.maxTurns)) d.stats
          (d.files.map (·.1))⟩,
        ⟨.user, "Query: " ++ query⟩]
      (min (Template.ofQuery query).budget (max 1 limits.maxTurns)) limits.resultChars
      ((Session.start d query limits).run model) := by
  rw [Nat.max_comm]
  exact transcribed_run rfl rfl

end

end Session

end CodeSnapshot

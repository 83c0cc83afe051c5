import CodeSnapshot.Instances
import CodeSnapshot.Proofs.Analysis.Turns

/-!
# Token sums — what a session says it used

Each answer of a model may report how many tokens were read and written. A session adds the reports
up, of its turns and of the call behind them, with counts of sixty-four bits. Nothing checks the
reports, and where the sums no longer fit, the program breaks off.

* **`reported`**, **`tokens`** — what a call reports, and the sum over the first calls as a natural
  number.
* **`SumsUp`** — counts that are the sums. Each answer keeps it if the counts can be added at all
  (`SumsUp.add`), and they cannot exactly if the next sums do not fit (`SumsUp.add?_eq_none_iff`).
* **`usage_exact_iff`** — the headline; `not_exact_of_great_report` is a session whose sum does not fit.
-/

namespace CodeSnapshot.Session

variable {s : Session} {model : Model} {k : Nat} {c : Completion} {u : TokenUsage}

/-! ## Reports -/

/-- What a call reports: nothing, if its answer comes without a report or if there is none. -/
def reported (model : Model) (i : Nat) : TokenUsage :=
  match model i with
  | .answered c => c.usage.getD {}
  | .failed _ | .silent => {}

/-- The tokens of a kind that the first calls report, added up. -/
def tokens (kind : TokenUsage → UInt64) (model : Model) : Nat → Nat
  | 0 => 0
  | calls + 1 => tokens kind model calls + (kind (reported model calls)).toNat

theorem tokens_succ (kind : TokenUsage → UInt64) (hc : model k = .answered c) :
    tokens kind model (k + 1) = tokens kind model k + (kind (c.usage.getD {})).toNat := by
  rw [tokens, reported, hc]

/-! ## Sums -/

/-- Both sums of what the first calls report are counts. -/
def Fits (model : Model) (calls : Nat) : Prop :=
  tokens TokenUsage.prompt model calls < UInt64.size ∧
    tokens TokenUsage.completion model calls < UInt64.size

/-- Both counts are the sums of what the first calls report. -/
structure SumsUp (model : Model) (calls : Nat) (u : TokenUsage) : Prop where
  prompt : u.prompt.toNat = tokens TokenUsage.prompt model calls
  completion : u.completion.toNat = tokens TokenUsage.completion model calls

theorem SumsUp.fits (h : SumsUp model k u) : Fits model k :=
  ⟨h.prompt ▸ u.prompt.toNat_lt, h.completion ▸ u.completion.toNat_lt⟩

theorem toNat_of_sum? {a b sum : UInt64} (h : TokenUsage.sum? a b = some sum) :
    sum.toNat = a.toNat + b.toNat := by
  rw [TokenUsage.sum?] at h
  split at h
  · next hlt =>
    cases h
    exact (UInt64.toNat_add a b).trans (Nat.mod_eq_of_lt hlt)
  · cases h

theorem sum?_eq_none_iff {a b : UInt64} :
    TokenUsage.sum? a b = none ↔ ¬ a.toNat + b.toNat < UInt64.size := by
  rw [TokenUsage.sum?]
  split
  · next hlt => exact iff_of_false nofun fun hnot => hnot hlt
  · next hnot => exact iff_of_true rfl hnot

/-- One more answer: its report is added to both sums. -/
theorem SumsUp.add {next : TokenUsage} (h : SumsUp model k u) (hc : model k = .answered c)
    (hadd : u.add? (c.usage.getD {}) = some next) : SumsUp model (k + 1) next := by
  obtain ⟨prompt, hprompt, hrest⟩ := Option.bind_eq_some_iff.1 hadd
  obtain ⟨completion, hcompletion, rfl⟩ := Option.map_eq_some_iff.1 hrest
  constructor
  · rw [tokens_succ _ hc, ← h.prompt]
    exact toNat_of_sum? hprompt
  · rw [tokens_succ _ hc, ← h.completion]
    exact toNat_of_sum? hcompletion

/-- The report of one more answer cannot be added exactly if a sum does not fit then. -/
theorem SumsUp.add?_eq_none_iff (h : SumsUp model k u) (hc : model k = .answered c) :
    u.add? (c.usage.getD {}) = none ↔ ¬ Fits model (k + 1) := by
  have heither : u.add? (c.usage.getD {}) = none ↔
      TokenUsage.sum? u.prompt (c.usage.getD {}).prompt = none ∨
        TokenUsage.sum? u.completion (c.usage.getD {}).completion = none := by
    rw [TokenUsage.add?]
    cases TokenUsage.sum? u.prompt (c.usage.getD {}).prompt <;> simp
  rw [heither, sum?_eq_none_iff, sum?_eq_none_iff, ← Decidable.not_and_iff_not_or_not, Fits, tokens_succ _ hc,
    tokens_succ _ hc, h.prompt, h.completion]

section

variable [Regexes] [Sorting]

/-- **The counts of a session between two turns.** Induction on the turns. -/
theorem sumsUp_after (hs : s.usage = {}) (hon : Plays s model k) :
    SumsUp model k (s.after model k).usage := by
  induction k with
  | zero =>
    rw [after, hs]
    exact ⟨rfl, rfl⟩
  | succ k ih =>
    obtain ⟨c, action, value, hc, -, ht⟩ := hon.last
    exact (ih (hon.mono (Nat.le_succ k))).add hc ht.usage

/-- What is counted before the last call, and that the calls before it are answered. -/
theorem Ends.sumsUp {conv : Conversation} (hs : s.usage = {}) (h : Ends s model conv) :
    SumsUp model (conv.calls.length - 1) (s.after model (conv.calls.length - 1)).usage ∧
      ∀ c, model (conv.calls.length - 1) = .answered c →
        ∀ i < conv.calls.length, ∃ c, model i = .answered c := by
  obtain ⟨k, hcalls, -, hon⟩ := h.calls
  rw [hcalls, Nat.add_sub_cancel]
  refine ⟨sumsUp_after hs hon, fun c hc i hi => ?_⟩
  rcases Nat.lt_succ_iff_lt_or_eq.1 hi with hlt | rfl
  · obtain ⟨c, hc, -⟩ := hon.goesOn i hlt
    exact ⟨c, hc⟩
  · exact ⟨c, hc⟩

theorem Ends.calls_pos {conv : Conversation} (h : Ends s model conv) :
    conv.calls.length - 1 + 1 = conv.calls.length := by
  obtain ⟨k, hcalls, -⟩ := h.calls
  rw [hcalls, Nat.add_sub_cancel]

/-- The counts of a session that comes to an analysis are the sums over all its calls. -/
theorem Ends.sumsUp_of_ok {conv : Conversation} (hs : s.usage = {}) (h : Ends s model conv)
    {a : Analysis} (ha : conv.ending = .ok a) :
    (∀ i < conv.calls.length, ∃ c, model i = .answered c) ∧
      SumsUp model conv.calls.length a.usage := by
  obtain ⟨hsums, hanswered⟩ := h.sumsUp hs
  obtain ⟨c, hc, hadd⟩ := h.answered_last ha
  have hall := hsums.add hc hadd
  rw [h.calls_pos] at hall
  exact ⟨hanswered c hc, hall⟩

/-- A session breaks off over its counts exactly if the sums over all its calls do not fit. -/
theorem Ends.overflowed_iff {conv : Conversation} (hs : s.usage = {}) (h : Ends s model conv) :
    conv.ending = .error .overflowed ↔
      (∀ i < conv.calls.length, ∃ c, model i = .answered c) ∧ ¬ Fits model conv.calls.length := by
  obtain ⟨hsums, hanswered⟩ := h.sumsUp hs
  constructor
  · intro hending
    have hwhy := h.stops hending
    generalize hreply : model (conv.calls.length - 1) = reply at hwhy
    cases hwhy with
    | unheard hwhy =>
      cases hwhy with
      | overflowed c hadd =>
        have hnot := (hsums.add?_eq_none_iff hreply).1 hadd
        rw [h.calls_pos] at hnot
        exact ⟨hanswered c hreply, hnot⟩
  · rintro ⟨hall, hnot⟩
    obtain ⟨c, hc⟩ := hall (conv.calls.length - 1) (by have := h.calls_pos; omega)
    have hadd := (hsums.add?_eq_none_iff hc).2 (by rwa [h.calls_pos])
    -- nothing but the counts can be the matter with an answer whose report does not fit
    cases hending : conv.ending with
    | ok a =>
      obtain ⟨c', hc', hadd'⟩ := h.answered_last hending
      rw [hc] at hc'
      cases hc'
      rw [hadd] at hadd'
      cases hadd'
    | error why =>
      have hwhy := h.stops hending
      rw [hc] at hwhy
      cases hwhy with
      | unheard hwhy =>
        cases hwhy with
        | overflowed => rfl
      | brokenOff c usage hadd' =>
        rw [hadd] at hadd'
        cases hadd'

/-- **When the usage of a session is exact.** A session that comes to an analysis has all its calls
answered, and its counts are the sums of what the answers report, of the last call too. What keeps it
from one is the counts exactly if all calls are answered and the sums do not fit into sixty-four bits. -/
theorem usage_exact_iff (d : Document) (query : String) (limits : SessionLimits) (model : Model) :
    let conv := (Session.start d query limits).run model
    let calls := conv.calls.length
    let prompt := tokens TokenUsage.prompt model calls
    let completion := tokens TokenUsage.completion model calls
    (∀ a, conv.ending = .ok a → (∀ i < calls, ∃ c, model i = .answered c) ∧
      a.usage.prompt.toNat = prompt ∧ a.usage.completion.toNat = completion) ∧
    (conv.ending = .error .overflowed ↔ (∀ i < calls, ∃ c, model i = .answered c) ∧
      ¬ (prompt < UInt64.size ∧ completion < UInt64.size)) := by
  intro conv calls prompt completion
  have hends : Ends (Session.start d query limits) model conv := ends_run _ model
  refine ⟨fun a ha => ?_, hends.overflowed_iff rfl⟩
  obtain ⟨hanswered, hsums⟩ := hends.sumsUp_of_ok rfl ha
  exact ⟨hanswered, hsums.prompt, hsums.completion⟩

end

/-! ## Sessions -/

/-- A model that reports what its first answer used and what its last one did, and nothing for the one
between them. -/
def reportingModel (first last : TokenUsage) : Model := fun i =>
  .answered <| match i with
    | 0 => { content := "Which files?", usage := some first }
    | 1 => { content := "(files)" }
    | _ => { content := "<<<FINAL>>>none<<<END>>>", usage := some last }

/-- The session that such a model has about a snapshot without files. -/
def reportingRun (first last : TokenUsage) : Conversation :=
  (Session.start (Document.parse "snapshot.txt" 0 "h\n") "why" {}).run (reportingModel first last)

theorem exists_of_isOk {conv : Conversation} (h : conv.ending.isOk = true) :
    ∃ a, conv.ending = .ok a := by
  cases hending : conv.ending with
  | error why =>
    rw [hending] at h
    cases h
  | ok a => exact ⟨a, rfl⟩

/-- Three calls, the second of which reports nothing. -/
theorem usage_exact_iff_of_three_calls :
    ∃ a, (reportingRun ⟨10, 2⟩ ⟨5, 0⟩).ending = .ok a ∧
      (reportingRun ⟨10, 2⟩ ⟨5, 0⟩).calls.length = 3 ∧
      a.usage.prompt.toNat = 15 ∧ a.usage.completion.toNat = 2 := by
  have hcalls : (reportingRun ⟨10, 2⟩ ⟨5, 0⟩).calls.length = 3 := by decide +kernel
  obtain ⟨a, ha⟩ : ∃ a, (reportingRun ⟨10, 2⟩ ⟨5, 0⟩).ending = .ok a :=
    exists_of_isOk (by decide +kernel)
  obtain ⟨-, hprompt, hcompletion⟩ := (usage_exact_iff _ _ _ _).1 a ha
  rw [show (Session.run _ _).calls.length = 3 from hcalls] at hprompt hcompletion
  exact ⟨a, ha, hcalls, hprompt, hcompletion⟩

/-- A report that leaves room for nothing more: the prompts sum up to `UInt64.size`, and the session
comes to no analysis that could say so. -/
theorem not_exact_of_great_report :
    let model := reportingModel ⟨18446744073709551615, 3⟩ ⟨1, 2⟩
    let conv := reportingRun ⟨18446744073709551615, 3⟩ ⟨1, 2⟩
    (∀ i < conv.calls.length, ∃ c, model i = .answered c) ∧ conv.calls.length = 3 ∧
      tokens TokenUsage.prompt model 3 = UInt64.size ∧ conv.ending = .error .overflowed := by
  intro model conv
  have hcalls : conv.calls.length = 3 := by decide +kernel
  have hsum : tokens TokenUsage.prompt model 3 = UInt64.size := by decide
  have hanswered : ∀ i < conv.calls.length, ∃ c, model i = .answered c := fun i _ => ⟨_, rfl⟩
  have hends : Ends _ model conv := ends_run _ model
  refine ⟨hanswered, hcalls, hsum, (hends.overflowed_iff rfl).2 ⟨hanswered, fun hfits => ?_⟩⟩
  rw [hcalls] at hfits
  exact Nat.lt_irrefl _ (hsum ▸ hfits.1)

end CodeSnapshot.Session

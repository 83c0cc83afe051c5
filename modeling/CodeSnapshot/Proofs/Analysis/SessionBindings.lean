import CodeSnapshot.CommandLine.Run
import CodeSnapshot.Instances
import CodeSnapshot.Proofs.Analysis.Turns
import CodeSnapshot.Proofs.Query.SessionNames

/-!
# Session bindings — the names that commands can use, over whole runs

Commands are run by two loops: a session runs those that it finds in the replies of a model, and an
inspection runs a list of them. Both bind what the commands before have given:

* **`after_bindings`** — one turn of a session, as a step from its bindings to the next.
* **`CommandLine.evalBindings`**, **`evalOutcomes`** — what is bound after the first commands of a list,
  and what comes of each command in the bindings of the commands before it; `evalSteps_eq` says that an
  inspection answers just that, and `evalSteps_reaches` that it goes through these bindings.
* **`bindings_follow`** — the headline: both loops follow their commands in the sense of
  `Bindings.Follow`, whatever the model replies and whatever the commands are.
-/

namespace CodeSnapshot

/-! ## Turns of a session -/

namespace Session

/-- The command in the reply of a turn. -/
def Model.command? (model : Model) (turn : Nat) : Option String :=
  match model (turn - 1) with
  | .answered c => Command.find? c.content
  | .failed _ | .silent => none

section

variable [Regexes] [Sorting] {s : Session} {model : Model} {k : Nat}

/-- A reply without an answer gives the value of its command. -/
theorem Interprets.value_eq {reply : String} {action : TurnAction} {value : Option Value}
    (hi : Interprets s reply action value) (ha : Answer.find? reply = none) :
    value = s.source.valueOf (Command.find? reply) s.bindings := by
  cases hi with
  | final answer h => rw [ha] at h; cases h
  | noCommand h hcommand => rw [hcommand]; rfl
  | command h text hcommand v hv => simp [Source.valueOf, hcommand, hv, Except.toOption]
  | commandError h text hcommand e he => simp [Source.valueOf, hcommand, he, Except.toOption]

/-- **One turn of a session.** -/
theorem after_bindings (hon : Plays s model (k + 1)) :
    (s.after model (k + 1)).bindings =
      (Bindings.turnValue s.source model.command? (fun i => (s.after model i).bindings)
          (k + 1)).elim
        (s.after model k).bindings ((s.after model k).bindings.record (k + 1)) := by
  obtain ⟨c, action, value, hc, ha, ht⟩ := hon.last
  have hcommand : Model.command? model (k + 1) = Command.find? c.content := by
    rw [Model.command?, Nat.add_sub_cancel, hc]
  rw [ht.bindings, ht.interprets.value_eq ha, after_source, Bindings.turnValue, hcommand,
    Nat.add_sub_cancel]

end

end Session

/-! ## Commands of an inspection -/

/-- A command that was run, and what came of it. -/
structure CommandOutcome where
  turn : Nat
  command : String
  result : Evaluated

namespace CommandOutcome

/-- The outcome in the answer of an inspection. -/
def toJson (o : CommandOutcome) : Json :=
  CommandLine.stepJson o.turn o.command o.result

/-- Whether the program breaks off in the command. -/
def breaksOff (o : CommandOutcome) : Bool :=
  match o.result with
  | .ok _ => false
  | .error e => e.breaksOff

/-- The answer of an inspection, if it breaks off in none of its commands. -/
def steps? (outcomes : List CommandOutcome) : Option (List Json) :=
  if outcomes.any (·.breaksOff) then none else some (outcomes.map (·.toJson))

theorem steps?_cons (o : CommandOutcome) (outcomes : List CommandOutcome) :
    steps? (o :: outcomes) =
      if o.breaksOff then none else (steps? outcomes).map fun steps => o.toJson :: steps := by
  rw [steps?, steps?, List.any_cons]
  cases o.breaksOff with
  | true => rfl
  | false =>
    rw [Bool.false_or]
    split
    · rfl
    · rfl

theorem steps?_append (first rest : List CommandOutcome) :
    steps? (first ++ rest) =
      (steps? first).bind fun steps => (steps? rest).map (steps ++ ·) := by
  rw [steps?, steps?, steps?, List.any_append, List.map_append]
  cases first.any (·.breaksOff) with
  | true => rfl
  | false =>
    rw [Bool.false_or]
    cases rest.any (·.breaksOff) <;> rfl

end CommandOutcome

namespace CommandLine

variable [Regexes] [Sorting]

/-- The bindings after the first commands of a list. -/
def evalBindings (source : Source) (commands : List String) : Nat → Bindings
  | 0 => .empty
  | k + 1 =>
    (source.valueOf commands[k]? (evalBindings source commands k)).elim
      (evalBindings source commands k) ((evalBindings source commands k).record (k + 1))

/-- What comes of each command of a list, in the bindings after the commands before it. -/
def evalOutcomes (source : Source) (commands : List String) : List CommandOutcome :=
  commands.mapIdx fun k command =>
    ⟨k + 1, command, source.execute command (evalBindings source commands k)⟩

variable {source : Source} {commands : List String} {k : Nat}

theorem length_evalOutcomes : (evalOutcomes source commands).length = commands.length :=
  List.length_mapIdx

theorem getElem?_evalOutcomes (hk : k < commands.length) :
    (evalOutcomes source commands)[k]? =
      some ⟨k + 1, commands[k], source.execute commands[k] (evalBindings source commands k)⟩ := by
  rw [evalOutcomes, List.getElem?_mapIdx, List.getElem?_eq_getElem hk]
  rfl

theorem drop_evalOutcomes (hk : k < commands.length) :
    (evalOutcomes source commands).drop k =
      ⟨k + 1, commands[k], source.execute commands[k] (evalBindings source commands k)⟩ ::
        (evalOutcomes source commands).drop (k + 1) := by
  rw [List.drop_eq_getElem?_toList_append, getElem?_evalOutcomes hk]
  rfl

theorem evalBindings_succ (hk : k < commands.length) :
    evalBindings source commands (k + 1) =
      match source.execute commands[k] (evalBindings source commands k) with
      | .ok value => (evalBindings source commands k).record (k + 1) value
      | .error _ => evalBindings source commands k := by
  rw [evalBindings, List.getElem?_eq_getElem hk, Source.valueOf, Option.bind_some]
  cases source.execute commands[k] (evalBindings source commands k) <;> rfl

/-- **One command of an inspection.** From the bindings after the first commands, the rest of the list
is answered with its outcomes. Induction on what is left. -/
theorem evalSteps_drop (source : Source) (commands : List String) (k : Nat)
    (hk : k ≤ commands.length) :
    evalSteps source (evalBindings source commands k) (k + 1) (commands.drop k) =
      CommandOutcome.steps? ((evalOutcomes source commands).drop k) := by
  rcases Nat.lt_or_eq_of_le hk with hlt | rfl
  · have ih := evalSteps_drop source commands (k + 1) hlt
    rw [List.drop_eq_getElem_cons hlt, drop_evalOutcomes hlt, CommandOutcome.steps?_cons, evalSteps,
      ← ih, evalBindings_succ hlt]
    cases hresult : source.execute commands[k] (evalBindings source commands k) with
    | ok value => rfl
    | error e => rfl
  · rw [List.drop_length, List.drop_of_length_le (Nat.le_of_eq length_evalOutcomes)]
    rfl
  termination_by commands.length - k

/-- **The answer of an inspection tells the outcomes of its commands.** -/
theorem evalSteps_eq (source : Source) (commands : List String) :
    evalSteps source .empty 1 commands =
      CommandOutcome.steps? (evalOutcomes source commands) :=
  evalSteps_drop source commands 0 (Nat.zero_le _)

/-- An inspection goes on from what is bound after its first commands. -/
theorem evalSteps_reaches (source : Source) (commands : List String) {k : Nat}
    (hk : k ≤ commands.length) :
    evalSteps source .empty 1 commands =
      (CommandOutcome.steps? ((evalOutcomes source commands).take k)).bind fun first =>
        (evalSteps source (evalBindings source commands k) (k + 1) (commands.drop k)).map
          (first ++ ·) := by
  rw [evalSteps_drop source commands k hk, ← CommandOutcome.steps?_append, List.take_append_drop]
  exact evalSteps_eq source commands

end CommandLine

-- a command that fails has no name, and a parameter with the name of the latest result binds nothing
example :
    let source : Source := { document := Document.parse "snapshot.txt" 0 "one\ntwo\n" }
    (CommandLine.evalBindings source
      ["(lines 1 2)", "(count", "(map _1 (lambda (RESULTS) 7))"] 3).keys =
        ["RESULTS", "_1", "_3"] := by
  decide

/-! ## Both loops -/

/-- **What is bound, over whole runs.** A session goes through states, whose bindings follow the commands
in the replies. An inspection answers what comes of each of its commands, in bindings that follow the
commands of its list; after any number of them, it goes on with just what is bound by then. -/
theorem bindings_follow [Regexes] [Sorting] (d : Document) (query : String) (limits : SessionLimits)
    (model : Session.Model) (source : Source) (commands : List String) :
    let s := Session.start d query limits
    let calls := (s.run model).calls
    let bound := CommandLine.evalBindings source commands
    let outcomes : List CommandOutcome := commands.mapIdx fun k command =>
      ⟨k + 1, command, source.execute command (bound k)⟩
    ((∀ k < calls.length,
        s.run model = (s.after model k).turns model (calls.take k) (s.plan.budget - k)) ∧
      Bindings.Follow s.source model.command? (calls.length - 1)
        fun k => (s.after model k).bindings) ∧
    (CommandLine.evalSteps source .empty 1 commands = CommandOutcome.steps? outcomes ∧
      (∀ k ≤ commands.length, CommandLine.evalSteps source .empty 1 commands =
        (CommandOutcome.steps? (outcomes.take k)).bind fun first =>
          (CommandLine.evalSteps source (bound k) (k + 1) (commands.drop k)).map (first ++ ·)) ∧
      Bindings.Follow source (fun turn => commands[turn - 1]?) commands.length bound) := by
  intro s calls bound outcomes
  obtain ⟨n, hcalls, -, hon⟩ := (Session.ends_run s model).calls
  have hlast : calls.length - 1 = n := by
    show (s.run model).calls.length - 1 = n
    rw [hcalls, Nat.add_sub_cancel]
  refine ⟨⟨fun k hk => Session.run_reaches hk, ?_⟩, CommandLine.evalSteps_eq source commands,
    fun k hk => CommandLine.evalSteps_reaches source commands hk, ?_⟩
  · rw [hlast]
    exact Bindings.follow_of_steps rfl fun k hk => Session.after_bindings (hon.mono hk)
  · exact Bindings.follow_of_steps rfl fun k hk => rfl

end CodeSnapshot

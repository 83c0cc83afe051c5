import CodeSnapshot.Analysis.Briefing
import CodeSnapshot.Analysis.Completion
import CodeSnapshot.Query.Command
import CodeSnapshot.Query.Eval
import CodeSnapshot.Text.Truncated

/-!
# Sessions

A model explores a snapshot in a bounded number of turns. In each turn it is sent everything said so
far, and its reply is taken as a final answer, as a command that is run, or as neither; what came of
it is said in the next message. When the turns are used up, one more request asks for the answer
itself.

`Session.take` is one turn, `Session.turns` all of them, and `Conversation` what is left when they
are over: what was sent with each call and how the session ended. It may end without an analysis, where
a call fails or the program breaks off, and it may never end, where a call is waited for without a limit.
-/

namespace CodeSnapshot

/-- The limits of a session. -/
structure SessionLimits where
  maxTurns : Nat := 12
  /-- how many characters of a result are shown -/
  resultChars : Nat := 2000
  /-- how many matches one search gives -/
  maxHits : Nat := 1000
  deriving Repr, DecidableEq, Inhabited

/-- What is made of a reply. -/
inductive TurnAction where
  /-- the session ends; `forced` tells that the turns were used up before -/
  | final (answer : String) (forced : Bool)
  /-- a command with its result as it is shown; `truncated` tells that this is a part of it -/
  | command (text result : String) (truncated : Bool)
  | commandError (text error : String)
  | noCommand
  /-- the turns are used up, and there is no answer -/
  | exhausted
  deriving Repr, DecidableEq, Inhabited

namespace TurnAction

def toJson : TurnAction → Json
  | final answer forced =>
    .object [("type", .text "final"), ("answer", .text answer), ("forced", .bool forced)]
  | command text result truncated =>
    .object
      [("type", .text "command"), ("command", .text text), ("result", .text result),
       ("truncated", .bool truncated)]
  | commandError text error =>
    .object [("type", .text "command_error"), ("command", .text text), ("error", .text error)]
  | noCommand => .object [("type", .text "no_command")]
  | exhausted => .object [("type", .text "exhausted")]

/-- The command that was run. -/
def command? : TurnAction → Option String
  | command c _ _ | commandError c _ => some c
  | final .. | noCommand | exhausted => none

/-- Whether only a part of a result was shown. -/
def isTruncated : TurnAction → Bool
  | command _ _ truncated => truncated
  | _ => false

end TurnAction

structure TurnRecord where
  turn : Nat
  response : String
  action : TurnAction
  deriving Repr, DecidableEq, Inhabited

def TurnRecord.toJson (r : TurnRecord) : Json :=
  .object [("turn", .nat r.turn), ("response", .text r.response), ("action", r.action.toJson)]

/-- What a session comes to. -/
structure Analysis where
  /-- the answer, unless the turns were used up without one -/
  answer : Option String
  turns : Nat
  commands : List String
  plan : Plan
  usage : TokenUsage
  history : List TurnRecord
  deriving Repr, DecidableEq, Inhabited

namespace Analysis

/-- The error of a session without an answer. -/
def exhaustedMessage : String := "Max turns reached"

def isSuccess (a : Analysis) : Bool :=
  a.answer.isSome

/-- The answer; empty for a session without one. -/
def answerText (a : Analysis) : String :=
  a.answer.getD ""

/-- What is said of a session without an answer. -/
def error? (a : Analysis) : Option String :=
  if a.isSuccess then none else some exhaustedMessage

/-- Whether only a part of some result was shown. -/
def isClipped (a : Analysis) : Bool :=
  a.history.any (·.action.isTruncated)

def toJson (a : Analysis) : Json :=
  .object
    ([("answer", .text a.answerText), ("turns", .nat a.turns),
      ("commands", .texts a.commands), ("success", .bool a.isSuccess)]
    ++ (a.error?.map fun message => ("error", .text message)).toList
    ++ [("template", .text a.plan.template.name), ("budget", .nat a.plan.budget),
        ("usage", a.usage.toJson), ("history", .list (a.history.map TurnRecord.toJson))])

end Analysis

/-- Why a session comes to no analysis. -/
inductive Interruption where
  /-- a call fails -/
  | failed (e : ProviderError)
  /-- a call is waited for, and nothing ever comes of it -/
  | waiting
  /-- the program breaks off, for the counts of tokens do not fit -/
  | overflowed
  /-- the program breaks off in a command -/
  | brokenOff
  deriving Repr, DecidableEq

/-! ## Messages of the session -/

namespace Guidance

/-- Said after a reply that holds no command. -/
def corrective : String :=
  "No command found in your reply. Reply with exactly one Nucleus command, for example " ++
  "(grep \"pattern\"), or give your final answer as <<<FINAL>>>answer<<<END>>>."

/-- Added to what is said in the last turns. -/
def nudge : String :=
  "You are almost out of turns. Give your final answer as <<<FINAL>>>answer<<<END>>> unless one " ++
  "more command is essential."

/-- Said when the turns are used up. -/
def forceFinal : String :=
  "The turn budget is exhausted. Reply now with your final answer only, wrapped as " ++
  "<<<FINAL>>>answer<<<END>>>."

/-- What is said after a turn that did not end the session. -/
def feedback? (turn : Nat) : TurnAction → Option String
  | .command _ result _ => some (s!"Result of turn {turn}:\n" ++ result)
  | .commandError _ error => some (s!"Error in turn {turn}: " ++ error)
  | .noCommand => some corrective
  | .final .. | .exhausted => none

/-- Adds the nudge in the last two turns. -/
def nudged (budget turn : Nat) (text : String) : String :=
  if budget < turn + 2 then text ++ "\n\n" ++ nudge else text

/-- The message after a turn, if the session goes on. -/
def messages (budget turn : Nat) (action : TurnAction) : List ChatMessage :=
  match feedback? turn action with
  | some text => [⟨.user, nudged budget turn text⟩]
  | none => []

end Guidance

/-! ## Turns -/

/-- A session between two turns. -/
structure Session where
  source : Source
  resultChars : Nat
  plan : Plan
  /-- everything said so far -/
  messages : List ChatMessage
  bindings : Bindings := .empty
  commands : List String := []
  history : List TurnRecord := []
  usage : TokenUsage := {}
  /-- the commands that succeeded, with their turns and values -/
  results : List (Nat × String × Value) := []

namespace Session

/-- The session for a question. -/
def start (d : Document) (query : String) (limits : SessionLimits) : Session :=
  let plan := Plan.withCeiling query (max limits.maxTurns 1)
  { source := Source.withMaxHits { document := d } limits.maxHits
    resultChars := limits.resultChars
    plan
    messages :=
      [⟨.system, Briefing.text plan d.stats (d.files.map (·.1))⟩, ⟨.user, "Query: " ++ query⟩] }

/-- Takes what comes of a call: what the model says, and the session after it was said. -/
def hear (s : Session) : Reply → Except Interruption (String × Session)
  | .failed e => .error (.failed e)
  | .silent => .error .waiting
  | .answered c =>
    match s.usage.add? (c.usage.getD {}) with
    | none => .error .overflowed
    | some usage =>
      let messages := s.messages ++ [⟨.assistant, c.content⟩]
      .ok (c.content, { s with messages, usage })

/-- What is made of a reply within the turns, and the value of a command that succeeded. -/
def interpret [Regexes] [Sorting] (s : Session) (reply : String) :
    Except Interruption (TurnAction × Option Value) :=
  match Answer.find? reply with
  | some answer => .ok (.final answer false, none)
  | none =>
    match Command.find? reply with
    | none => .ok (.noCommand, none)
    | some command =>
      match s.source.execute command s.bindings with
      | .ok value =>
        let (shown, truncated) := Text.truncateMarked s.resultChars value.toJson.pretty
        .ok (.command command shown truncated, some value)
      | .error e =>
        if e.breaksOff then .error .brokenOff else .ok (.commandError command e.message, none)

/-- Binds the value of a command that succeeded, and keeps it as a result. -/
def bind (s : Session) (turn : Nat) (command : String) (value : Value) : Session :=
  { s with
    bindings := s.bindings.record turn value
    results := s.results ++ [(turn, command, value)] }

/-- The session after it was noted what came of a turn. -/
def note (s : Session) (turn : Nat) (reply : String) (action : TurnAction) (value : Option Value) :
    Session :=
  let next :=
    { s with
      messages := s.messages ++ Guidance.messages s.plan.budget turn action
      commands := s.commands ++ action.command?.toList
      history := s.history ++ [⟨turn, reply, action⟩] }
  match action.command?, value with
  | some command, some value => next.bind turn command value
  | _, _ => next

/-- One turn: what is made of what comes of its call, and the session after it. -/
def take [Regexes] [Sorting] (s : Session) (turn : Nat) (reply : Reply) :
    Except Interruption (TurnAction × Session) :=
  (s.hear reply).bind fun (content, heard) =>
    (heard.interpret content).map fun (action, value) =>
      (action, heard.note turn content action value)

/-- What a reply to the last request comes to: its marked answer, else the reply itself if it is not
blank and holds no command. -/
def forcedAnswer? (reply : String) : Option String :=
  match Answer.find? reply with
  | some answer => some answer
  | none =>
    let text := Text.trimmed reply
    if (Command.find? reply).isNone && !text.isEmpty then some text else none

/-- The outcome of a session that ends in a turn. -/
def finish (s : Session) (answer : Option String) (turns : Nat) : Analysis :=
  { answer, turns, commands := s.commands, plan := s.plan, usage := s.usage, history := s.history }

/-- Asks for the answer itself. -/
def askAgain (s : Session) : Session :=
  { s with messages := s.messages ++ [⟨.user, Guidance.forceFinal⟩] }

/-- The outcome of a session whose turns are used up, given the last reply. -/
def conclude (s : Session) (reply : String) : Analysis :=
  let answer := forcedAnswer? reply
  let action := match answer with
    | some text => TurnAction.final text true
    | none => .exhausted
  let last : Session := { s with history := s.history ++ [⟨s.plan.budget, reply, action⟩] }
  last.finish answer s.plan.budget

/-- The end of a session whose turns are used up. -/
def force (s : Session) (reply : Reply) : Except Interruption Analysis :=
  (s.hear reply).map fun (content, heard) => heard.conclude content

end Session

/-- A session that is over: the messages sent with each call, the results of its commands, and how
it ended. -/
structure Conversation where
  calls : List (List ChatMessage)
  results : List (Nat × String × Value)
  ending : Except Interruption Analysis

namespace Session

/-- What comes of each call of a model, counted from zero. -/
abbrev Model := Nat → Reply

/-- The rest of a session, with a number of turns left. The calls of earlier turns precede. -/
def turns [Regexes] [Sorting] (s : Session) (model : Model) (calls : List (List ChatMessage)) :
    (left : Nat) → Conversation
  | 0 =>
    let s := s.askAgain
    { calls := calls ++ [s.messages]
      results := s.results
      ending := s.force (model calls.length) }
  | left + 1 =>
    let sent := calls ++ [s.messages]
    let turn := sent.length
    match s.take turn (model calls.length) with
    | .error why => ⟨sent, s.results, .error why⟩
    | .ok (action, next) =>
      match action with
      | .final answer _ => ⟨sent, next.results, .ok (next.finish (some answer) turn)⟩
      | _ => turns next model sent left

/-- A whole session. -/
def run [Regexes] [Sorting] (s : Session) (model : Model) : Conversation :=
  s.turns model [] s.plan.budget

end Session

end CodeSnapshot

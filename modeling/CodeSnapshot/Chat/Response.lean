import CodeSnapshot.Analysis.Completion
import CodeSnapshot.Json.Reader

/-!
# Responses of a model's server

The document that a server answers with: some choices, of which the first one counts, and perhaps
how many tokens were used.
-/

namespace CodeSnapshot.ChatResponse

open Json Json.Reader Json.Shape

/-- How a record of some length is called when a list has another length. -/
def withLength (title : String) (length : Nat) : String :=
  title ++ s!" with {length} element" ++ if length = 1 then "" else "s"

/-! ## Token counts -/

def usageTitle : String := "struct ChatUsage"

/-- The counts of tokens; one that is missing is zero. -/
def usage : Shape (Option Nat × Option Nat) TokenUsage where
  title := usageTitle
  start := (none, none)
  field name known :=
    match name with
    | "prompt_tokens" => some do return (some (← once name known.1 nat64), known.2)
    | "completion_tokens" => some do return (known.1, some (← once name known.2 nat64))
    | _ => none
  listed := do
    let prompt ← nextItem 0 (.ok 0) nat64
    let completion ← nextItem 1 (.ok 0) nat64
    return (some prompt, some completion)
  finish known := .ok ⟨(known.1.getD 0).toUInt64, (known.2.getD 0).toUInt64⟩

/-! ## Choices -/

def messageTitle : String := "struct ResponseMessage"

/-- What the model says; it may say nothing. -/
def message : Shape (Option (Option String)) (Option String) where
  title := messageTitle
  start := none
  field name known :=
    match name with
    | "content" => some do return some (← once name known (optional text))
    | _ => none
  listed := do
    return some (← nextItem 0 (.error (.wrongLength 0 (withLength messageTitle 1))) (optional text))
  finish known := .ok known.join

/-- One of the answers a model gives: what it says, and why it stops. -/
structure Choice where
  content : Option String
  finishReason : Option String
  deriving Repr, DecidableEq

def choiceTitle : String := "struct Choice"

def choice : Shape (Option (Option String) × Option (Option String)) Choice where
  title := choiceTitle
  start := (none, none)
  field name known :=
    match name with
    | "message" => some do return (some (← once name known.1 message.read), known.2)
    | "finish_reason" => some do return (known.1, some (← once name known.2 (optional text)))
    | _ => none
  listed := do
    let content ← nextItem 0 (.error (.wrongLength 0 (withLength choiceTitle 2))) message.read
    let reason ← nextItem 1 (.error (.wrongLength 1 (withLength choiceTitle 2))) (optional text)
    return (some content, some reason)
  finish known :=
    match known.1 with
    | some content => .ok ⟨content, known.2.join⟩
    | none => .error (.missingField "message")

/-! ## The document -/

structure Body where
  choices : List Choice
  usage : Option TokenUsage
  deriving Repr, DecidableEq

def bodyTitle : String := "struct ChatResponse"

def body : Shape (Option (List Choice) × Option (Option TokenUsage)) Body where
  title := bodyTitle
  start := (none, none)
  field name known :=
    match name with
    | "choices" => some do return (some (← once name known.1 (list choice.read)), known.2)
    | "usage" => some do return (known.1, some (← once name known.2 (optional usage.read)))
    | _ => none
  listed := do
    let choices ← nextItem 0 (.ok []) (list choice.read)
    let counts ← nextItem 1 (.error (.wrongLength 1 (withLength bodyTitle 2))) (optional usage.read)
    return (some choices, some counts)
  finish known := .ok ⟨known.1.getD [], known.2.join⟩

/-- What a model answers, from the document of a response that succeeded. -/
def completion (document : String) : Except ResponseFault Completion :=
  match readAll body.read document with
  | .error e => .error (.malformed e)
  | .ok b =>
    match b.choices with
    | [] => .error .noChoices
    | c :: _ =>
      .ok { content := c.content.getD "", finishReason := c.finishReason, usage := b.usage }

end CodeSnapshot.ChatResponse

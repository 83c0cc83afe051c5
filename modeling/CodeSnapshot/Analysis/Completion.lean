import CodeSnapshot.Json.Error

/-!
# Talking to a model

The messages that are exchanged with a model, what it answers, and why it may not answer.
-/

namespace CodeSnapshot

/-- Who says something. -/
inductive Role where
  | system
  | user
  | assistant
  deriving Repr, DecidableEq, Inhabited

def Role.name : Role → String
  | system => "system"
  | user => "user"
  | assistant => "assistant"

structure ChatMessage where
  role : Role
  content : String
  deriving Repr, DecidableEq, Inhabited

def ChatMessage.toJson (m : ChatMessage) : Json :=
  .object [("role", .text m.role.name), ("content", .text m.content)]

/-- How many tokens were read and written, in counts of sixty-four bits. -/
structure TokenUsage where
  prompt : UInt64 := 0
  completion : UInt64 := 0
  deriving Repr, DecidableEq, Inhabited

namespace TokenUsage

/-- The sum of two counts, if it fits. -/
def sum? (a b : UInt64) : Option UInt64 :=
  if a.toNat + b.toNat < UInt64.size then some (a + b) else none

/-- Both sums, if they fit. -/
def add? (a b : TokenUsage) : Option TokenUsage :=
  (sum? a.prompt b.prompt).bind fun prompt =>
    (sum? a.completion b.completion).map fun completion => ⟨prompt, completion⟩

def toJson (u : TokenUsage) : Json :=
  .object [("promptTokens", .nat u.prompt.toNat), ("completionTokens", .nat u.completion.toNat)]

end TokenUsage

/-- What a model answers. -/
structure Completion where
  content : String
  finishReason : Option String := none
  usage : Option TokenUsage := none
  deriving Repr, DecidableEq, Inhabited

/-- Why a response that arrived cannot be used. -/
inductive ResponseFault where
  | malformed (e : Json.ReadError)
  | noChoices
  | other (message : String)
  deriving Repr, DecidableEq

def ResponseFault.message : ResponseFault → String
  | malformed e => e.message
  | noChoices => "response has no choices"
  | other message => message

/-- Why there is no answer. -/
inductive ProviderError where
  /-- no response arrived -/
  | transport (message : String)
  | unauthorized (message : String)
  | refused (status : Nat) (message : String)
  /-- no answer within a number of milliseconds -/
  | timeout (milliseconds : Nat)
  | invalidResponse (fault : ResponseFault)
  | other (message : String)
  deriving Repr, DecidableEq

namespace ProviderError

def category : ProviderError → String
  | transport _ => "network"
  | unauthorized _ => "auth"
  | refused _ _ => "api"
  | timeout _ => "timeout"
  | invalidResponse _ => "parse"
  | other _ => "unknown"

def message : ProviderError → String
  | transport m => "HTTP error: " ++ m
  | unauthorized m => "Auth error: " ++ m
  | refused status m => s!"API error ({status}): " ++ m
  | timeout ms => s!"Provider call timed out after {ms}ms"
  | invalidResponse fault => "Invalid response: " ++ fault.message
  | other m => m

end ProviderError

/-- What comes of one call: an answer or an error, or nothing ever. -/
inductive Reply where
  | answered (c : Completion)
  | failed (e : ProviderError)
  | silent
  deriving Repr, DecidableEq

/-- What comes of a call that is given up after a number of milliseconds, if there is a limit. -/
def Reply.within (limit : Option Nat) : Reply → Reply
  | .answered c => .answered c
  | .failed e => .failed e
  | .silent =>
    match limit with
    | some milliseconds => .failed (.timeout milliseconds)
    | none => .silent

end CodeSnapshot

import CodeSnapshot.Chat.Response
import CodeSnapshot.Config.Basic

/-!
# Asking a model

The request that carries a conversation to a model's server, and what is made of the server's
reaction.
-/

namespace CodeSnapshot

/-- How one request may depart from the settings. -/
structure CompletionOptions where
  temperature : Option Single := none
  maxTokens : Option Nat := none
  deriving Repr, DecidableEq, Inhabited

/-- A request: where it goes, who sends it, and its document. -/
structure ChatRequest where
  url : String
  authorization : Option String
  body : String
  deriving Repr, DecidableEq, Inhabited

/-- What becomes of a request. -/
inductive ServerReply where
  | response (status : Nat) (body : String)
  /-- no response, for a reason -/
  | refused (reason : String)
  /-- a response whose document did not arrive, for a reason -/
  | cut (reason : String)
  | silent
  deriving Repr, DecidableEq, Inhabited

/-- Who asks a model: the settings, and the key if there is one. -/
structure ChatClient where
  config : ProviderConfig
  apiKey : Option String := none
  deriving Repr, DecidableEq, Inhabited

namespace ChatClient

/-- The name of this kind of server. -/
def name : String := "openai"

/-- The client for some settings; a key of blanks is none. -/
def ofConfig (config : ProviderConfig) (environment : Environment) : ChatClient :=
  { config
    apiKey := (environment config.apiKeyVariable).filter fun key =>
      !(Text.trim key.toList).isEmpty }

/-- The address of a server without slashes at its end. -/
def trimmedUrl (url : String) : String :=
  String.ofList (url.toList.reverse.dropWhile (· == '/')).reverse

def endpoint (c : ChatClient) : String :=
  trimmedUrl c.config.baseUrl ++ "/chat/completions"

/-- The document of a request. -/
def requestJson (c : ChatClient) (options : CompletionOptions) (messages : List ChatMessage) :
    Json :=
  .object
    [("model", .text c.config.model), ("messages", .list (messages.map ChatMessage.toJson)),
     ("temperature", .single (options.temperature.getD c.config.temperature)),
     ("max_tokens", .nat (options.maxTokens.getD c.config.maxTokens))]

def request (c : ChatClient) (options : CompletionOptions) (messages : List ChatMessage) :
    ChatRequest where
  url := c.endpoint
  authorization := c.apiKey.map ("Bearer " ++ ·)
  body := (c.requestJson options messages).compact

/-- Whether a status tells that the sender is not known or not allowed. -/
def isUnauthorized (status : Nat) : Bool :=
  status == 401 || status == 403

def isSuccess (status : Nat) : Bool :=
  200 ≤ status && status < 300

/-- What is made of the server's reaction. -/
def reply : ServerReply → Reply
  | .refused reason | .cut reason => .failed (.transport reason)
  | .silent => .silent
  | .response status body =>
    if isUnauthorized status then .failed (.unauthorized body)
    else if !isSuccess status then .failed (.refused status body)
    else
      match ChatResponse.completion body with
      | .ok c => .answered c
      | .error fault => .failed (.invalidResponse fault)

/-- The model behind a server that reacts to the requests in turn. -/
def model (server : Nat → ServerReply) (timeout : Option Nat) : Session.Model :=
  fun call => (reply (server call)).within timeout

end ChatClient

end CodeSnapshot

import CodeSnapshot.Chat.Client
import CodeSnapshot.CommandLine.Encoding
import CodeSnapshot.CommandLine.Request
import CodeSnapshot.Config.Load

/-!
# Running the program

What the program does with its arguments in given surroundings: what it prints, the requests that
it sends to a model's server, and how it ends. A command whose answer is JSON prints one envelope, also
when it fails. The program need not come to an end of its own: it breaks off where there is no room for
its cache, where counts of tokens do not fit and where sorting does, and it waits for a server as long
as it is told to.
-/

namespace CodeSnapshot.CommandLine

/-- What a run depends on besides its arguments. -/
structure Surroundings where
  disk : Disk
  environment : Environment
  /-- the home of the user's account -/
  accountHome : Option String := none
  /-- whether there is room for a cache of so many documents -/
  roomFor : Nat → Bool := fun _ => true
  /-- why no client can be made that talks to a server, if none can -/
  clientFault? : Option String := none
  /-- what a model's server makes of the requests, counted from zero -/
  server : Nat → ServerReply

/-- How a run ends. -/
inductive Exit where
  | code (n : Nat)
  /-- the program breaks off -/
  | aborted
  /-- the program waits, and does not end -/
  | never
  deriving Repr, DecidableEq, Inhabited

/-- What comes of a run. -/
structure Run where
  exit : Exit := .code 0
  /-- what is printed as the answer -/
  output : String := ""
  /-- what is said besides, message by message -/
  messages : List String := []
  requests : List ChatRequest := []
  deriving Repr, DecidableEq, Inhabited

/-- Why a command fails. -/
inductive CommandError where
  /-- of the snapshot, once it is loaded -/
  | snapshot (e : SnapshotError)
  /-- on the way to the snapshot or to a model's answer -/
  | analyze (e : AnalyzeError)
  deriving Repr, DecidableEq

namespace CommandError

def message : CommandError → String
  | snapshot e => e.message
  | analyze e => e.message

def snapshotFailure (e : SnapshotError) : Failure :=
  match e with
  | .fileNotFound _ =>
    ⟨"not_found", e.message, some "Run `nucleus stats <snapshot>` to list the files it contains"⟩
  | .invalidPattern _ => ⟨"invalid_pattern", e.message, none⟩
  | .file _ => ⟨"io", e.message, none⟩
  | .notText _ | .watcher _ => ⟨"snapshot", e.message, none⟩

/-- What to do about an error of the provider. -/
def providerHint? : ProviderError → Option String
  | .unauthorized _ => some "Set the variable named by provider.api_key_env"
  | .timeout _ => some "Raise --turn-timeout-ms"
  | _ => none

def providerFailure (e : ProviderError) : Failure :=
  ⟨"provider_" ++ e.category, e.message, providerHint? e⟩

/-- The error as it stands in an envelope. -/
def failure : CommandError → Failure
  | snapshot e | analyze (.snapshot e) => snapshotFailure e
  | analyze (.provider e) => providerFailure e

end CommandError

/-! ## Answers -/

/-- What a command answers, or why it fails. -/
abbrev Answered := Except CommandError Envelope

/-- The last message of a run that fails. -/
def errorMessage (message : String) : String := "Error: " ++ message

namespace Run

/-- A run that fails without an answer. -/
def failed (message : String) : Run := { exit := .code 1, messages := [errorMessage message] }

/-- A run that breaks off. -/
def aborted : Run := { exit := .aborted }

/-- The text of an envelope. -/
def envelopeText (e : Envelope) : String := e.toJson.pretty ++ "\n"

/-- Prints the envelope of an answer. -/
def ofAnswer : Answered → Run
  | .ok e => { output := envelopeText e }
  | .error e => { failed e.message with output := envelopeText (.failure e.failure) }

end Run

/-- An envelope, with a reason if something holds. -/
def truncatedIf (holds : Bool) (reason : Truncation) (e : Envelope) : Envelope :=
  if holds then e.truncated reason else e

/-! ## Inspections -/

/-- Evaluates commands one after the other; a result can be named by the commands behind. There are no
steps if the program breaks off in a command. -/
def evalSteps [Regexes] [Sorting] (source : Source) (bindings : Bindings) (turn : Nat) :
    List String → Option (List Json)
  | [] => some []
  | command :: rest =>
    match source.execute command bindings with
    | .ok value =>
      (evalSteps source (bindings.record turn value) (turn + 1) rest).map fun steps =>
        stepJson turn command (.ok value) :: steps
    | .error e =>
      if e.breaksOff then none
      else
        (evalSteps source bindings (turn + 1) rest).map fun steps =>
          stepJson turn command (.error e) :: steps

namespace Inspection

/-- Asks something of the document of a snapshot. -/
def ofDocument (disk : Disk) (engine : Engine) (snapshot : String)
    (ask : Document → Except SnapshotError Envelope) : Answered :=
  match (engine.load disk snapshot).1 with
  | .error e => .error (.analyze (.snapshot e))
  | .ok handle => (ask handle.document).mapError .snapshot

/-- Asks something of the structure of a snapshot. -/
def ofStructure (disk : Disk) (engine : Engine) (snapshot : String)
    (ask : StructuralQueries → Json) : Answered :=
  match (engine.structural disk snapshot).1 with
  | .error e => .error (.analyze (.snapshot e))
  | .ok queries => .ok (.success (ask queries))

/-- Evaluates commands on the document of a snapshot. -/
def ofCommands [Regexes] [Sorting] (disk : Disk) (engine : Engine) (snapshot : String)
    (maxHits : Nat) (commands : List String) : Option Answered :=
  match (engine.load disk snapshot).1 with
  | .error e => some (.error (.analyze (.snapshot e)))
  | .ok handle =>
    let source := Source.withMaxHits { document := handle.document } maxHits
    (evalSteps source .empty 1 commands).map fun steps => .ok (.success (.list steps))

/-- What is answered with some settings, unless the program breaks off. -/
def answer [Regexes] [Sorting] (i : Inspection) (disk : Disk) (c : EngineConfig)
    (snapshot : String) : Option Answered :=
  let engine := Engine.ofConfig c
  match i with
  | eval commands maxHits => ofCommands disk engine snapshot (maxHits.getD c.maxHits) commands
  | search pattern options =>
    some <| ofDocument disk engine snapshot fun d => (d.search pattern options).map fun page =>
      truncatedIf page.hasMore .maxMatches (.success page.toJson)
  | context file line before after =>
    some <| ofDocument disk engine snapshot fun d =>
      (d.contextWindow file line before after).map fun window => .success window.toJson
  | imports file =>
    some <| ofStructure disk engine snapshot fun q => linksJson "file" file (q.importsOf file)
  | importers file =>
    some <| ofStructure disk engine snapshot fun q => linksJson "file" file (q.importersOf file)
  | exporters symbol =>
    some <| ofStructure disk engine snapshot fun q =>
      linksJson "symbol" symbol (q.exportersOf symbol)
  | cycles => some <| ofStructure disk engine snapshot fun q => cyclesJson q.cycles
  | impact file depth =>
    some <| ofStructure disk engine snapshot fun q => impactJson file depth (q.impact file depth)
  | stats => some <| ofDocument disk engine snapshot fun d => .ok (.success d.toJson)

end Inspection

/-! ## Analyses -/

/-- The settings with what the options of an analysis change. -/
def AnalyzeOptions.apply (o : AnalyzeOptions) (c : Config) : Config where
  engine := {
    c.engine with
    maxTurns := o.maxTurns.getD c.engine.maxTurns
    turnTimeoutMs := o.turnTimeoutMs.getD c.engine.turnTimeoutMs }
  provider := {
    c.provider with
    model := o.model.getD c.provider.model
    baseUrl := o.baseUrl.getD c.provider.baseUrl }

/-- The envelope of an analysis, which tells where something was cut short. -/
def analysisEnvelope (a : Analysis) : Envelope :=
  truncatedIf (!a.isSuccess) .maxTurns
    (truncatedIf a.isClipped .maxChars (Envelope.success a.toJson))

/-- Prints all of an analysis. -/
def fullRun (ending : Except AnalyzeError Analysis) : Run :=
  .ofAnswer <|
    match ending with
    | .ok a => .ok (analysisEnvelope a)
    | .error e => .error (.analyze e)

/-- Says what is done in a turn. -/
def progressMessage (turn : Nat) (command : String) : String :=
  s!"[turn {turn}] " ++ command

/-- Prints the answer of an analysis. -/
def answerRun (ending : Except AnalyzeError Analysis) : Run :=
  match ending with
  | .error e => .failed e.message
  | .ok a =>
    match a.answer with
    | some answer => { output := answer ++ "\n" }
    | none => .failed (Analysis.exhaustedMessage ++ s!" after {a.turns} turn(s)")

/-- Prints what an analysis comes to: all of it, or the answer. -/
def report (json : Bool) (ending : Except AnalyzeError Analysis) : Run :=
  if json then fullRun ending else answerRun ending

/-- Prints how a session ends, if it does. -/
def sessionRun (json : Bool) : Except Interruption Analysis → Run
  | .ok a => report json (.ok a)
  | .error (.failed e) => report json (.error (.provider e))
  | .error .waiting => { exit := .never }
  | .error .overflowed | .error .brokenOff => .aborted

/-- The session of an analysis, with its settings. -/
def converse [Regexes] [Sorting] (s : Surroundings) (c : Config) (snapshot query : String) :
    Except SnapshotError Conversation :=
  let model := ChatClient.model s.server c.engine.turnTimeout
  ((Engine.ofConfig c.engine).analyze s.disk snapshot query c.engine.limits model).1

/-- Runs an analysis. -/
def analyze [Regexes] [Sorting] (s : Surroundings) (c : Config) (snapshot query : String)
    (o : AnalyzeOptions) : Run :=
  let c := o.apply c
  if !s.roomFor c.engine.cacheCapacity then .aborted
  else
    match s.clientFault? with
    | some reason => .failed (ProviderError.transport reason).message
    | none =>
      match converse s c snapshot query with
      | .error e => report o.json (.error (.snapshot e))
      | .ok conversation =>
        let client := ChatClient.ofConfig c.provider s.environment
        let run := sessionRun o.json conversation.ending
        let progress := conversation.results.map fun (turn, command, _) =>
          progressMessage turn command
        { run with
          messages := (if o.json then [] else progress) ++ run.messages
          requests := conversation.calls.map (client.request {}) }

/-! ## Requests -/

/-- Runs an inspection. -/
def inspect [Regexes] [Sorting] (s : Surroundings) (c : Config) (snapshot : String)
    (i : Inspection) : Run :=
  if !s.roomFor c.engine.cacheCapacity then .aborted
  else
    match i.answer s.disk c.engine snapshot with
    | some answered => .ofAnswer answered
    | none => .aborted

/-- Runs a request with some settings. -/
def Request.run [Regexes] [Sorting] (r : Request) (s : Surroundings) (c : Config) : Run :=
  match r with
  | .analyze snapshot query options => CommandLine.analyze s c snapshot query options
  | .inspect snapshot inspection => CommandLine.inspect s c snapshot inspection

/-- Loads the settings and runs a request. -/
def Invocation.run [Regexes] [Sorting] (i : Invocation) (s : Surroundings) : Run :=
  match Config.load s.disk s.environment s.accountHome i.configFile with
  | .error e => .failed e.message
  | .ok c => i.request.run s c

/-! ## The program -/

def versionText : String := "nucleus 0.1.0\n"

/-- How the program is called. -/
def usage : String :=
  "Usage: nucleus [--config <file>] [--verbose] [--quiet] <command> <snapshot> [...]\n\n" ++
  "Commands: " ++ Text.joined ", " (Request.allRules.map (·.name))

/-- Runs the program. -/
def run [Regexes] [Sorting] (s : Surroundings) (arguments : List String) : Run :=
  match Invocation.parse arguments with
  | .ok i => i.run s
  | .error .misuse => { exit := .code 2, messages := [usage] }
  | .error .version => { output := versionText }
  | .error .overview => { output := usage ++ "\n" }

end CodeSnapshot.CommandLine

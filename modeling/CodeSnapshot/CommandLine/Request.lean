import CodeSnapshot.CommandLine.Arguments
import CodeSnapshot.Document.Search

/-!
# Requests

What the program can be asked to do, and how arguments ask for it: some options that every command
has, the name of a command, and its arguments.
-/

namespace CodeSnapshot.CommandLine

/-- How an analysis departs from the settings, and whether all of it is printed. -/
structure AnalyzeOptions where
  maxTurns : Option Nat := none
  turnTimeoutMs : Option Nat := none
  model : Option String := none
  baseUrl : Option String := none
  json : Bool := false
  deriving Repr, DecidableEq, Inhabited

/-- What can be asked about a snapshot without a model. -/
inductive Inspection where
  /-- evaluates commands of the query language -/
  | eval (commands : List String) (maxHits : Option Nat)
  | search (pattern : String) (options : SearchOptions)
  | context (file : String) (line before after : Nat)
  | imports (file : String)
  | importers (file : String)
  | exporters (symbol : String)
  | cycles
  | impact (file : String) (depth : Nat)
  | stats
  deriving Repr, DecidableEq

/-- A command with its arguments. -/
inductive Request where
  /-- answers a question with the help of a model -/
  | analyze (snapshot query : String) (options : AnalyzeOptions)
  | inspect (snapshot : String) (inspection : Inspection)
  deriving Repr, DecidableEq

/-- A request, and the settings file that is asked for. -/
structure Invocation where
  request : Request
  configFile : Option String := none
  deriving Repr, DecidableEq

/-! ## Rules -/

def helpOption : OptionRule := ⟨"help", some 'h', .halt .overview⟩

/-- The options of every command. How much is logged is of no consequence to what is answered. -/
def globalOptions : List OptionRule :=
  [⟨"config", none, .value .path⟩, ⟨"verbose", some 'v', .flag⟩, ⟨"quiet", none, .flag⟩, helpOption]

/-- The options before the name of the command. -/
def mainRules : Rules where
  options := ⟨"version", some 'V', .halt .version⟩ :: globalOptions

/-- An option that is a number. -/
def natOption (name : String) : OptionRule := ⟨name, none, .value .nat⟩

/-- An option that is a text. -/
def textOption (name : String) : OptionRule := ⟨name, none, .value .text⟩

/-- The name of a command, the rules for its arguments, and the request that they make up; there is
none when operands are missing. -/
structure CommandRules where
  name : String
  operands : List ValueKind
  repeats : Bool := false
  options : List OptionRule := []
  request? : Arguments → Option Request

def CommandRules.rules (c : CommandRules) : Rules where
  operands := c.operands
  repeats := c.repeats
  options := c.options ++ globalOptions

namespace Request

def analyzeRules : CommandRules where
  name := "analyze"
  operands := [.path, .text]
  options :=
    [natOption "max-turns", natOption "turn-timeout-ms", textOption "model", textOption "base-url",
     ⟨"json", none, .flag⟩]
  request? a :=
    match a.operands with
    | [snapshot, query] =>
      some (.analyze snapshot query {
        maxTurns := a.nat? "max-turns"
        turnTimeoutMs := a.nat? "turn-timeout-ms"
        model := a.value? "model"
        baseUrl := a.value? "base-url"
        json := a.hasFlag "json" })
    | _ => none

def evalRules : CommandRules where
  name := "eval"
  operands := [.path, .text]
  repeats := true
  options := [natOption "max-grep-matches"]
  request? a :=
    match a.operands with
    | snapshot :: command :: more =>
      some (.inspect snapshot (.eval (command :: more) (a.nat? "max-grep-matches")))
    | _ => none

def searchRules : CommandRules where
  name := "search"
  operands := [.path, .text]
  options :=
    [⟨"ignore-case", some 'i', .flag⟩, natOption "max-results", natOption "offset"]
  request? a :=
    match a.operands with
    | [snapshot, pattern] =>
      let usual : SearchOptions := {}
      some (.inspect snapshot (.search pattern {
        caseless := a.hasFlag "ignore-case"
        maxResults := (a.nat? "max-results").getD usual.maxResults
        offset := (a.nat? "offset").getD usual.offset }))
    | _ => none

/-- How many lines are shown on either side unless a number is given. -/
def usualContext : Nat := 5

def contextRules : CommandRules where
  name := "context"
  operands := [.path, .text, .nat]
  options := [natOption "before", natOption "after"]
  request? a :=
    match a.operands with
    | [snapshot, file, line] =>
      (readNat? line).map fun line =>
        .inspect snapshot (.context file line ((a.nat? "before").getD usualContext)
          ((a.nat? "after").getD usualContext))
    | _ => none

/-- The rules of a command whose operands are a snapshot and the name of something. -/
def namedRules (name : String) (inspection : String → Inspection) : CommandRules where
  name
  operands := [.path, .text]
  request? a :=
    match a.operands with
    | [snapshot, subject] => some (.inspect snapshot (inspection subject))
    | _ => none

/-- The rules of a command whose only operand is a snapshot. -/
def plainRules (name : String) (inspection : Inspection) : CommandRules where
  name
  operands := [.path]
  request? a :=
    match a.operands with
    | [snapshot] => some (.inspect snapshot inspection)
    | _ => none

/-- How far an impact is followed unless a number is given. -/
def usualDepth : Nat := 3

def impactRules : CommandRules where
  name := "impact"
  operands := [.path, .text]
  options := [natOption "depth"]
  request? a :=
    match a.operands with
    | [snapshot, file] =>
      some (.inspect snapshot (.impact file ((a.nat? "depth").getD usualDepth)))
    | _ => none

/-- The rules of all commands. -/
def allRules : List CommandRules :=
  [analyzeRules, evalRules, searchRules, contextRules, namedRules "imports" .imports,
   namedRules "importers" .importers, namedRules "exporters" .exporters,
   plainRules "cycles" .cycles, impactRules, plainRules "stats" .stats]

end Request

/-! ## Reading -/

/-- Reads the arguments of a command. A settings file that is named among them takes the place of
one that was named before. -/
def CommandRules.invocation (c : CommandRules) (before : Arguments) (arguments : List String) :
    Reading Invocation := do
  let (a, _) ← c.rules.read {} arguments
  match c.request? a with
  | some request => return ⟨request, (a.value? "config").or (before.value? "config")⟩
  | none => .error .misuse

/-- The name of the command that gives an overview. -/
def helpName : String := "help"

/-- Reads all arguments of the program. -/
def Invocation.parse (arguments : List String) : Reading Invocation := do
  let (before, rest) ← mainRules.read {} arguments
  match rest with
  | [] => .error .misuse
  | name :: rest =>
    match Request.allRules.find? (·.name == name) with
    | some c => c.invocation before rest
    | none => .error (if name = helpName then .overview else .misuse)

end CodeSnapshot.CommandLine

import CodeSnapshot.Config.File
import CodeSnapshot.Disk.Basic
import CodeSnapshot.Text.Blank
import CodeSnapshot.Text.Quoted

/-!
# Loading settings

The settings are the defaults, changed by the settings file, changed by environment variables. The
file is one that is asked for by name, or else the usual one if it is there.
-/

namespace CodeSnapshot

/-- Why there are no settings. -/
inductive ConfigError where
  /-- a file is missing, or is no text -/
  | unreadable (path : String)
  | malformed (path : String)
  | invalidVariable (name value : String)
  deriving Repr, DecidableEq

def ConfigError.message : ConfigError → String
  | unreadable path => "Failed to read config " ++ path
  | malformed path => "Invalid config " ++ path
  | invalidVariable name value => "Invalid value for " ++ name ++ ": " ++ Text.quoted value

namespace Config

open Decimal (readNat? twoTo)

/-! ## Environment variables -/

/-- A setting that an environment variable may give: the end of the variable's name, and the
settings with the value that a text writes. -/
structure Variable where
  name : String
  apply : Config → List Char → Option Config

/-- A bound of sessions and caches. -/
def boundVariable (name : String) (put : EngineConfig → Nat → EngineConfig) : Variable where
  name
  apply c text := (readNat? (twoTo 64) text).map fun n => { c with engine := put c.engine n }

/-- A text that tells which model is asked. -/
def textVariable (name : String) (put : ProviderConfig → String → ProviderConfig) : Variable where
  name
  apply c text := some { c with provider := put c.provider (String.ofList text) }

def temperatureVariable : Variable where
  name := "TEMPERATURE"
  apply c text :=
    (Single.ofText? text).map fun x => { c with provider := { c.provider with temperature := x } }

def maxTokensVariable : Variable where
  name := "MAX_TOKENS"
  apply c text :=
    (readNat? (twoTo 32) text).map fun n =>
      { c with provider := { c.provider with maxTokens := n } }

/-- The variables in the order in which they are looked at. -/
def knownVariables : List Variable :=
  [boundVariable "MAX_TURNS" fun e n => { e with maxTurns := n },
   boundVariable "TURN_TIMEOUT_MS" fun e n => { e with turnTimeoutMs := n },
   boundVariable "RESULT_CHAR_LIMIT" fun e n => { e with resultChars := n },
   boundVariable "CACHE_CAPACITY" fun e n => { e with cacheCapacity := n },
   boundVariable "MAX_GREP_MATCHES" fun e n => { e with maxHits := n },
   textVariable "BASE_URL" fun p s => { p with baseUrl := s },
   textVariable "MODEL" fun p s => { p with model := s },
   textVariable "API_KEY_ENV" fun p s => { p with apiKeyVariable := s },
   temperatureVariable,
   maxTokensVariable]

/-- What the names of the variables start with. -/
def variableStem : String := "NUCLEUS_"

/-- The settings after a look at one variable. Blanks around its value do not count. -/
def withVariable (environment : Environment) (c : Config) (v : Variable) :
    Except ConfigError Config :=
  let name := variableStem ++ v.name
  match environment name with
  | none => .ok c
  | some value =>
    match v.apply c (Text.trim value.toList) with
    | some c => .ok c
    | none => .error (.invalidVariable name value)

/-- The settings after a look at every variable. -/
def withEnvironment (environment : Environment) (c : Config) : Except ConfigError Config :=
  knownVariables.foldlM (withVariable environment) c

/-! ## The file -/

/-- The home of a user: the one that is named, else the one of the account. -/
def home? (environment : Environment) (account : Option String) : Option String :=
  ((environment "HOME").filter fun home => !home.isEmpty).or
    (account.filter fun home => !home.isEmpty)

/-- The directory of a user's settings files. -/
def userDirectory? (environment : Environment) (account : Option String) : Option String :=
  ((environment "XDG_CONFIG_HOME").filter Location.isAbsolute).or
    ((home? environment account).map fun home => Location.join home ".config")

/-- The usual place of the settings file. -/
def usualPath? (environment : Environment) (account : Option String) : Option String :=
  (userDirectory? environment account).map fun directory =>
    Location.join (Location.join directory "nucleus") "config.toml"

/-- The settings of a file. -/
def read (disk : Disk) (path : String) : Except ConfigError Config :=
  match disk.read? path with
  | .ok (some text) =>
    match ofText? text with
    | some c => .ok c
    | none => .error (.malformed path)
  | .ok none | .error _ => .error (.unreadable path)

/-- The settings of the file that is asked for, else those of the usual one. -/
def ofFile (disk : Disk) (environment : Environment) (account asked : Option String) :
    Except ConfigError Config :=
  match asked, usualPath? environment account with
  | some path, _ => read disk path
  | none, some path => if disk.isFile path then read disk path else .ok {}
  | none, none => .ok {}

/-- The settings. The home of the account is looked at where the environment names none. -/
def load (disk : Disk) (environment : Environment) (account asked : Option String) :
    Except ConfigError Config :=
  (ofFile disk environment account asked).bind (withEnvironment environment)

end Config

end CodeSnapshot

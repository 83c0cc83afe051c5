import CodeSnapshot.Analysis.Session
import CodeSnapshot.Cache.Documents
import CodeSnapshot.Decimal.Double

/-!
# Settings

How sessions and caches are bounded, and which model is asked.
-/

namespace CodeSnapshot

/-- The bounds of sessions and caches. -/
structure EngineConfig where
  maxTurns : Nat := 12
  /-- how long a reply may take, in milliseconds; zero stands for no limit -/
  turnTimeoutMs : Nat := 120000
  resultChars : Nat := 2000
  cacheCapacity : Nat := DocumentCache.defaultCapacity
  maxHits : Nat := 1000
  deriving Repr, DecidableEq, Inhabited

namespace EngineConfig

/-- How long a reply may take. -/
def turnTimeout (c : EngineConfig) : Option Nat :=
  if 0 < c.turnTimeoutMs then some c.turnTimeoutMs else none

def limits (c : EngineConfig) : SessionLimits :=
  ⟨c.maxTurns, c.resultChars, c.maxHits⟩

end EngineConfig

/-- Which model is asked, and how. -/
structure ProviderConfig where
  baseUrl : String := "https://api.openai.com/v1"
  model : String := "gpt-4o-mini"
  /-- the environment variable that holds the key -/
  apiKeyVariable : String := "OPENAI_API_KEY"
  temperature : Single := .ofMagnitude false 0
  maxTokens : Nat := 2048
  deriving Repr, DecidableEq, Inhabited

/-- The values of environment variables. -/
abbrev Environment := String → Option String

structure Config where
  engine : EngineConfig := {}
  provider : ProviderConfig := {}
  deriving Repr, DecidableEq, Inhabited

end CodeSnapshot

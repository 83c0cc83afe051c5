import CodeSnapshot.Config.Basic
import CodeSnapshot.Toml.Document

/-!
# Settings in a file

A settings file has a table `engine` and a table `provider`; a table or a field that is missing
keeps its default, and unknown ones are passed over. A record may also be written as a list of its
fields in order.
-/

namespace CodeSnapshot

namespace Toml

/-- How the fields of a record are found: by name in a table, by place in a list. A date counts as a
table without known fields. -/
def recordOf? (names : List String) : Toml → Option (String → Option Toml)
  | .table _ fields => some (Fields.get? fields)
  | .moment => some fun _ => none
  | .list items => some fun name => items[names.idxOf name]?
  | .tables newestFirst =>
    some fun name => (newestFirst.reverse[names.idxOf name]?).map (.table .header)
  | .text _ | .int _ | .double _ | .bool _ => none

/-- A whole number below a limit. -/
def natBelow? (limit : Nat) : Toml → Option Nat
  | .int n => if 0 ≤ n && n < limit then some n.toNat else none
  | _ => none

def text? : Toml → Option String
  | .text s => some s
  | _ => none

/-- A number, rounded to single precision. -/
def single? : Toml → Option Single
  | .int n => some (.ofInt n)
  | .double x => some (.ofDouble x)
  | _ => none

/-- A field: its value, or the default if it is missing. -/
def given? {α : Type} (read : Toml → Option α) (default : α) : Option Toml → Option α
  | none => some default
  | some value => read value

end Toml

open Toml

namespace EngineConfig

def fieldNames : List String :=
  ["max_turns", "turn_timeout_ms", "result_char_limit", "cache_capacity", "max_grep_matches"]

/-- The bounds that a record gives. -/
def ofToml? (t : Toml) : Option EngineConfig := do
  let field ← recordOf? fieldNames t
  let usual : EngineConfig := {}
  let nat (name : String) (default : Nat) :=
    given? (natBelow? (Decimal.twoTo 64)) default (field name)
  return {
    maxTurns := ← nat "max_turns" usual.maxTurns
    turnTimeoutMs := ← nat "turn_timeout_ms" usual.turnTimeoutMs
    resultChars := ← nat "result_char_limit" usual.resultChars
    cacheCapacity := ← nat "cache_capacity" usual.cacheCapacity
    maxHits := ← nat "max_grep_matches" usual.maxHits }

end EngineConfig

namespace ProviderConfig

def fieldNames : List String :=
  ["base_url", "model", "api_key_env", "temperature", "max_tokens"]

/-- The model that a record describes. -/
def ofToml? (t : Toml) : Option ProviderConfig := do
  let field ← recordOf? fieldNames t
  let usual : ProviderConfig := {}
  return {
    baseUrl := ← given? text? usual.baseUrl (field "base_url")
    model := ← given? text? usual.model (field "model")
    apiKeyVariable := ← given? text? usual.apiKeyVariable (field "api_key_env")
    temperature := ← given? single? usual.temperature (field "temperature")
    maxTokens := ← given? (natBelow? (Decimal.twoTo 32)) usual.maxTokens (field "max_tokens") }

end ProviderConfig

namespace Config

def fieldNames : List String := ["engine", "provider"]

def ofToml? (t : Toml) : Option Config := do
  let field ← recordOf? fieldNames t
  return {
    engine := ← given? EngineConfig.ofToml? {} (field "engine")
    provider := ← given? ProviderConfig.ofToml? {} (field "provider") }

/-- The settings that a file holds. -/
def ofText? (text : String) : Option Config :=
  (Toml.parse? text).bind ofToml?

end Config

end CodeSnapshot

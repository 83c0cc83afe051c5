import CodeSnapshot.Json.Basic

/-!
# The envelope of an answer

Every command that answers with JSON answers with one object: which version of the format it is,
whether the command succeeded, its data or its error, and where the answer was cut short.
-/

namespace CodeSnapshot

/-- Why an answer is not complete. -/
inductive Truncation where
  | maxChars
  | maxMatches
  | maxTurns
  deriving Repr, DecidableEq

namespace Truncation

def all : List Truncation := [maxChars, maxMatches, maxTurns]

def name : Truncation → String
  | maxChars => "max_chars"
  | maxMatches => "max_matches"
  | maxTurns => "max_turns"

end Truncation

/-- Why a command failed: a code for programs, a message for people, and perhaps what to do. -/
structure Failure where
  code : String
  message : String
  hint : Option String := none
  deriving Repr, DecidableEq, Inhabited

/-- What a command answers. -/
inductive Outcome where
  | data (value : Json)
  | noData
  | failure (f : Failure)
  deriving Repr, Inhabited

/-- An answer, and the reasons why it is not complete. -/
structure Envelope where
  outcome : Outcome
  truncation : List Truncation := []
  deriving Repr, Inhabited

namespace Envelope

/-- The version of the format. -/
def version : Nat := 1

def success (data : Json) : Envelope := { outcome := .data data }

def failure (f : Failure) : Envelope := { outcome := .failure f }

/-- Adds a reason, unless it is given already. -/
def truncated (e : Envelope) (reason : Truncation) : Envelope :=
  if e.truncation.contains reason then e
  else { e with truncation := e.truncation ++ [reason] }

def failureJson (f : Failure) : Json :=
  .object
    [("code", .text f.code), ("message", .text f.message), ("hint", Json.orNull (f.hint.map .text))]

/-- The fields that tell the outcome. -/
def outcomeFields : Outcome → List (String × Json)
  | .data value => [("status", .text "ok"), ("data", value)]
  | .noData => [("status", .text "ok")]
  | .failure f => [("status", .text "error"), ("error", failureJson f)]

def toJson (e : Envelope) : Json :=
  .object
    (("schema_version", .nat version) :: outcomeFields e.outcome
      ++ if e.truncation.isEmpty then []
        else [("truncation", .texts (e.truncation.map Truncation.name))])

/-- The envelope as a reader of its text gets it: data that is `null` counts as none. -/
def reread (e : Envelope) : Envelope :=
  match e.outcome with
  | .data .null => { e with outcome := .noData }
  | _ => e

end Envelope

end CodeSnapshot

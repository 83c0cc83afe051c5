import CodeSnapshot.Pattern.Matching
import CodeSnapshot.Text.Blank

/-!
# Kinds of questions

A question is sorted by the words in it. Its kind decides what the model is told to do and how many
turns it is given; the caller may give fewer.
-/

namespace CodeSnapshot

/-- The kinds of questions. -/
inductive Template where
  | counting
  | search
  | architecture
  | implementation
  | general
  deriving Repr, DecidableEq, Inhabited

namespace Template

open Pattern

def name : Template → String
  | counting => "counting"
  | search => "search"
  | architecture => "architecture"
  | implementation => "implementation"
  | general => "general"

/-- How many turns a question of this kind is given. -/
def budget : Template → Nat
  | counting => 5
  | search => 6
  | architecture => 12
  | implementation => 12
  | general => 12

/-- What the model is told to do. -/
def instructions : Template → String
  | counting =>
    "The user wants a number. Grep for the construct, count the matches, filter out false " ++
    "positives if needed, and answer with the count and a short note on how it was obtained."
  | search =>
    "The user wants to locate something. Grep for likely names, narrow the matches, and answer " ++
    "with file paths and line numbers."
  | architecture =>
    "The user wants an overview. Start from (files), sample exports and imports with grep, and " ++
    "describe the main components and how they depend on each other."
  | implementation =>
    "The user wants to know how something works. Find the entry point with grep, read " ++
    "surrounding lines with (lines start end), follow calls, and explain the flow step by step."
  | general =>
    "Explore the codebase with grep and related commands until you can answer the question " ++
    "accurately."

/-! ## Telling the kinds apart -/

/-- The edge of a word. -/
def edge : Pattern := .place (.wordEdge CharClass.word)

/-- One of some characters, in any case. -/
def anyCaseOf (cs : List Char) : Pattern := .one (.caseless (CharClass.ofChars cs))

/-- The characters of a word that follow. -/
def wordTail : Pattern := many CharClass.word

/-- One of some phrases, with the edge of a word on either side. -/
def phrases (ps : List Pattern) : Pattern := chain [edge, firstOf ps, edge]

/-- Words that ask for a number. -/
def countingWords : Pattern :=
  phrases [anyCaseWord "how many", anyCaseWord "count", anyCaseWord "total", anyCaseWord "how much"]

/-- Verbs that ask for a place, at the start of a question. -/
def searchVerb : Pattern :=
  chain
    [.place .textStart, many CharClass.blank,
     firstOf
       [anyCaseWord "find", anyCaseWord "search", anyCaseWord "show", anyCaseWord "list",
        anyCaseWord "where is", anyCaseWord "locate"],
     edge]

/-- Words about the whole of a program. -/
def architectureWords : Pattern :=
  phrases
    [anyCaseWord "architecture", anyCaseWord "overview", anyCaseWord "structure",
     anyCaseWord "structured", anyCaseWord "design",
     chain [anyCaseWord "organi", anyCaseOf ['s', 'z'], anyCaseWord "ed"],
     chain [anyCaseWord "organi", anyCaseOf ['s', 'z'], anyCaseWord "ation"],
     chain [anyCaseWord "high", anyCaseOf ['-', ' '], anyCaseWord "level"],
     anyCaseWord "components", anyCaseWord "modules", anyCaseWord "layers"]

/-- Words about how something works. -/
def implementationWords : Pattern :=
  phrases
    [anyCaseWord "how does", anyCaseWord "how do",
     chain [anyCaseWord "implement", wordTail],
     chain [anyCaseWord "work", maybe (anyCaseWord "s")],
     chain [anyCaseWord "handle", maybe (anyCaseWord "s")],
     anyCaseWord "handling",
     chain [anyCaseWord "process", wordTail],
     chain [anyCaseWord "flow", maybe (anyCaseWord "s")]]

/-- A question that begins with a search verb has fewer characters than this. -/
def shortQuery : Nat := 50

/-- The kind of a question; the first one that fits. -/
def ofQuery (query : String) : Template :=
  let text := query.toList
  if countingWords.occursIn text then counting
  else if (Text.trim text).length < shortQuery && searchVerb.occursIn text then search
  else if architectureWords.occursIn text then architecture
  else if implementationWords.occursIn text then implementation
  else general

end Template

/-- What is planned for a question: its kind and how many turns it has. -/
structure Plan where
  template : Template
  budget : Nat
  deriving Repr, DecidableEq, Inhabited

namespace Plan

/-- The plan for a question. -/
def ofQuery (query : String) : Plan :=
  let template := Template.ofQuery query
  ⟨template, template.budget⟩

/-- The plan for a question with at most `ceiling` turns. -/
def withCeiling (query : String) (ceiling : Nat) : Plan :=
  let plan := ofQuery query
  { plan with budget := min plan.budget ceiling }

end Plan

end CodeSnapshot

import CodeSnapshot.Analysis.Answer
import CodeSnapshot.Analysis.Template
import CodeSnapshot.Document.Basic

/-!
# What a model is told first

The first message of a session: what kind of question it is, which commands there are, how to reply,
and what the snapshot holds.
-/

namespace CodeSnapshot.Briefing

/-- The commands and what they do. -/
def reference : String :=
  Text.joined "\n"
    ["Commands (one per reply, S-expression syntax):",
     "  (grep \"pattern\" [\"flags\"])      regex over every line; flags i m s x; at most 1000 matches",
     "                                  each match has: match, line, lineNum, index, groups",
     "  (count x)                       length of a list",
     "  (map x (lambda (m) body))       evaluate body for each element",
     "  (filter x (lambda (m) body))    keep elements where body is truthy",
     "  (first x) / (last x)            first or last element, null when empty",
     "  (take x n)                      first n elements",
     "  (sort x \"field\")                sort by a field, numbers numerically",
     "  (match value \"pattern\" [group]) capture group of a regex (0 = whole match) or null",
     "  (lines start end)               lines of the snapshot, 1-based inclusive",
     "  (files)                         file list with path, start and end lines",
     "  (get x \"field\")                 field of a record or of every element of a list",
     "  (sum x [\"field\"])               sum of numbers",
     "  (not x)                         boolean negation",
     "Previous results are bound as RESULTS (latest) and _1, _2, ... (by turn)."]

/-- How to reply, given the number of turns. -/
def rules (budget : Nat) : String :=
  "Protocol:\n" ++
  "- Reply with exactly one command to run it; its result comes back in the next message.\n" ++
  "- When you can answer, reply with " ++ Answer.opening ++ "your answer" ++ Answer.closing ++
  " and nothing else.\n" ++ s!"- You have at most {budget} turns."

/-- How many files are listed. -/
def fileLimit : Nat := 50

/-- The files, as many as are listed, and how many more there are. -/
def fileList (files : List String) : String :=
  if files.isEmpty then ""
  else
    let listed := (files.take fileLimit).map fun file => "  " ++ file ++ "\n"
    let more := files.length - fileLimit
    "Files:\n" ++ String.join listed ++ if 0 < more then s!"  ... and {more} more\n" else ""

/-- The figures of the snapshot. -/
def figures (stats : DocumentStats) : String :=
  s!"Snapshot: {stats.lines} lines, {stats.chars} chars, {stats.files} files.\n"

/-- The first message of a session. -/
def text (plan : Plan) (stats : DocumentStats) (files : List String) : String :=
  Text.joined "\n\n"
    ["You analyze a codebase snapshot that is too large to read at once. " ++
      "Explore it with the Nucleus query language, one command per reply.",
     plan.template.instructions, reference, rules plan.budget,
     figures stats ++ fileList files]

end CodeSnapshot.Briefing

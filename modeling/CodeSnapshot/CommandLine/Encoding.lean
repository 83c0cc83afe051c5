import CodeSnapshot.Engine
import CodeSnapshot.Envelope
import CodeSnapshot.Json.Sorted

/-!
# The data of answers

How the results of requests are written as JSON.
-/

namespace CodeSnapshot

def SearchPage.toJson (p : SearchPage) : Json :=
  .object
    [("matches", .list (p.hits.map Value.hitJson)), ("count", .nat p.count),
     ("offset", .nat p.offset), ("hasMore", .bool p.hasMore)]

def ContextWindow.toJson (w : ContextWindow) : Json :=
  .object
    [("file", .text w.file), ("line", .nat w.line), ("start", .nat w.first), ("end", .nat w.last),
     ("text", .text w.text)]

def Reach.toJson (r : Reach) : Json :=
  .object [("file", .text r.file), ("distance", .nat r.distance)]

/-- The place of a file in a snapshot. -/
def FileRange.toJson (path : String) (r : FileRange) : Json :=
  .object [("path", .text path), ("start", .nat r.first), ("end", .nat r.last)]

/-- What a snapshot holds. -/
def Document.toJson (d : Document) : Json :=
  .object
    [("path", .text d.path), ("lines", .nat d.stats.lines), ("chars", .nat d.stats.chars),
     ("files", .nat d.stats.files),
     ("file_ranges", .list (d.files.map fun (path, range) => range.toJson path))]

namespace CommandLine

/-- Files that belong to a file or to a symbol; `title` tells to which of the two. -/
def linksJson (title subject : String) (files : List String) : Json :=
  .object [(title, .text subject), ("files", .texts files)]

def cyclesJson (cycles : List (List String)) : Json :=
  .object [("cycles", .list (cycles.map Json.texts))]

def impactJson (file : String) (depth : Nat) (impacted : List Reach) : Json :=
  .object
    [("file", .text file), ("depth", .nat depth), ("impacted", .list (impacted.map Reach.toJson))]

/-- One evaluated command: its result or its error. -/
def stepJson (turn : Nat) (command : String) (result : Evaluated) : Json :=
  .object
    [("turn", .nat turn), ("command", .text command),
     match result with
     | .ok value => ("result", value.toJson.sorted)
     | .error e => ("error", .text e.message)]

end CommandLine

end CodeSnapshot

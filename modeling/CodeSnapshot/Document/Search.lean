import CodeSnapshot.Document.Basic
import CodeSnapshot.Document.Error
import CodeSnapshot.Regex.Basic

/-!
# Searching a document

The matches of a regular expression, line by line, all of them or as many as fit within a limit; a page
of them; and the lines around a place in a file. A search within a limit ends at the first match that
does not fit; a page goes through all matches, for it tells how many there are.
-/

namespace CodeSnapshot

/-- A match in a document. -/
structure Hit where
  matched : String
  line : String
  lineNumber : Nat
  /-- how many characters of the document precede the match -/
  index : Nat
  /-- what the groups hold, from the first on -/
  groups : List (Option String)
  deriving Repr, DecidableEq, Inhabited

namespace Hit

/-- A match in a line as a match in the document. Its place in the line, which is told by bytes, counts
in characters. -/
def ofCaptures (number : Nat) (line : Line) (c : Captures) : Hit where
  matched := String.ofList (c.whole.textIn line.text.toList)
  line := line.text
  lineNumber := number
  index := line.offset + (Text.takeBytes c.whole.start line.text.toList).length
  groups := c.groups.map fun group =>
    group.map fun range => String.ofList (range.textIn line.text.toList)

end Hit

namespace Lines

/-- Collects the matches of one line behind those that were found before. A match for which there is
no room cuts the search short. -/
def collect (limit : Option Nat) (toHit : Captures → Hit) :
    List Captures → (found : Array Hit) → Array Hit × Bool
  | [], found => (found, false)
  | c :: rest, found =>
    if limit.any (· ≤ found.size) then (found, true)
    else collect limit toHit rest (found.push (toHit c))

/-- Collects the matches of some lines, one line after the other, until the search is cut short. -/
def collectFrom (r : Regex) (limit : Option Nat) :
    List (Nat × Line) → (found : Array Hit) → Array Hit × Bool
  | [], found => (found, false)
  | (number, line) :: rest, found =>
    match collect limit (Hit.ofCaptures number line) (r.all line.text) found with
    | (found, true) => (found, true)
    | (found, false) => collectFrom r limit rest found

/-- The matches in the order of the document, no more than the limit allows, and whether it cut the
search short. -/
def findHits (ls : Lines) (r : Regex) (limit : Option Nat) : List Hit × Bool :=
  let (found, cut) := collectFrom r limit ls.numbered #[]
  (found.toList, cut)

/-- All matches, in the order of the document. -/
def hits (ls : Lines) (r : Regex) : List Hit :=
  (ls.findHits r none).1

/-- The first `limit` matches, and whether there are more. -/
def firstHits (ls : Lines) (r : Regex) (limit : Nat) : List Hit × Bool :=
  ls.findHits r (some limit)

end Lines

/-- How to search: in any case or not, and which part of the matches to give. -/
structure SearchOptions where
  caseless : Bool := false
  maxResults : Nat := 100
  offset : Nat := 0
  deriving Repr, DecidableEq, Inhabited

/-- The greatest count there is. -/
def countLimit : Nat := UInt64.size - 1

/-- Where the part that is asked for ends: the number of matches up to there, as far as it can be
counted. -/
def SearchOptions.stop (o : SearchOptions) : Nat :=
  min (o.offset + o.maxResults) countLimit

/-- A part of the matches of a search. -/
structure SearchPage where
  hits : List Hit
  /-- how many matches there are in all -/
  count : Nat
  offset : Nat
  hasMore : Bool
  deriving Repr, DecidableEq, Inhabited

/-- Compiles a pattern to search for, in any case or not. -/
def Regex.ofSearch [Regexes] (pattern : String) (caseless : Bool) : Except SnapshotError Regex :=
  (Regexes.compile { caseless } pattern).mapError .invalidPattern

/-- Lines of a file around one of them. -/
structure ContextWindow where
  file : String
  /-- the line asked for, counted from one in the file -/
  line : Nat
  first : Nat
  last : Nat
  text : String
  deriving Repr, DecidableEq, Inhabited

namespace Document

/-- The matches seen so far: how many they are, and those of them that are on the page. -/
structure PageScan where
  count : Nat := 0
  hits : Array Hit := #[]

/-- One more match. It is put on the page if its number, counted from zero, is in the part that is
asked for. -/
def PageScan.see (options : SearchOptions) (toHit : Captures → Hit) (scan : PageScan)
    (c : Captures) : PageScan where
  count := scan.count + 1
  hits :=
    if options.offset ≤ scan.count && scan.count < options.stop then scan.hits.push (toHit c)
    else scan.hits

/-- The matches from `offset` on, at most `maxResults` of them. -/
def page (d : Document) (r : Regex) (options : SearchOptions) : SearchPage :=
  let scan := d.lines.numbered.foldl
    (fun scan (number, line) =>
      (r.all line.text).foldl (PageScan.see options (Hit.ofCaptures number line)) scan)
    {}
  { hits := scan.hits.toList
    count := scan.count
    offset := options.offset
    hasMore := options.stop < scan.count }

/-- Searches for a pattern that is given as text. -/
def search [Regexes] (d : Document) (pattern : String) (options : SearchOptions) :
    Except SnapshotError SearchPage :=
  (Regex.ofSearch pattern options.caseless).map fun r => d.page r options

/-- A number at the right end of a field. -/
def padNumber (width n : Nat) : String :=
  let digits := toString n
  String.ofList (List.replicate (width - digits.length) ' ') ++ digits

/-- A row of a window: a mark for the line asked for, its number, and what it says. -/
def windowRow (width target number : Nat) (line : String) : String :=
  (if number = target then ">" else " ") ++ " " ++ padNumber width number ++ " | " ++ line

/-- The lines around one line of a file: the line asked for is moved into the file, and the window
ends where the file does. -/
def contextWindow (d : Document) (file : String) (line before after : Nat) :
    Except SnapshotError ContextWindow :=
  let file := Path.normalize file
  match d.fileRange? file with
  | none => .error (.fileNotFound file)
  | some range =>
    let length := range.length
    let target := min (max line 1) length
    let first := max (target - before) 1
    let last := min (target + after) length
    let width := (toString last).length
    let lines := d.lines.slice (range.first + first - 1) (range.first + last - 1)
    let rows := lines.zipIdx.map fun (l, i) => windowRow width target (first + i) l.text
    .ok { file, line := target, first, last, text := Text.joined "\n" rows }

end Document

end CodeSnapshot

import CodeSnapshot.Document.Section
import CodeSnapshot.Sorted.Set

/-!
# Tables about the project

A snapshot may carry what is known about its project: which file imports which, which symbol is
exported by which files, and which file is imported by which. Each table is a section with one line
an entry: a key, a mark, and the members separated by commas.
-/

namespace CodeSnapshot

/-- The three tables of a snapshot. -/
structure Metadata where
  importGraph : StringMap StringSet := .empty
  exportIndex : StringMap StringSet := .empty
  whoImports : StringMap StringSet := .empty
  deriving Repr, DecidableEq, Inhabited

/-- The tables by name. -/
inductive Table where
  | importGraph
  | exportIndex
  | whoImports
  deriving Repr, DecidableEq

namespace Table

def all : List Table := [.importGraph, .exportIndex, .whoImports]

def name : Table → String
  | .importGraph => "IMPORT_GRAPH"
  | .exportIndex => "EXPORT_INDEX"
  | .whoImports => "WHO_IMPORTS"

def ofName? (name : String) : Option Table :=
  all.find? (·.name == name)

/-- What stands between a key and its members. -/
def mark : Table → List Char
  | .importGraph => ['-', '>']
  | .exportIndex => [':']
  | .whoImports => ['<', '-']

/-- The mark as it is written. -/
def spacedMark : Table → String
  | .importGraph => " -> "
  | .exportIndex => ": "
  | .whoImports => " <- "

theorem mem_all (table : Table) : table ∈ all := by
  cases table <;> decide

end Table

namespace Metadata

open Text

def get (m : Metadata) : Table → StringMap StringSet
  | .importGraph => m.importGraph
  | .exportIndex => m.exportIndex
  | .whoImports => m.whoImports

def set (m : Metadata) (table : Table) (value : StringMap StringSet) : Metadata :=
  match table with
  | .importGraph => { m with importGraph := value }
  | .exportIndex => { m with exportIndex := value }
  | .whoImports => { m with whoImports := value }

def isEmpty (m : Metadata) : Bool :=
  Table.all.all fun t => (m.get t).isEmpty

theorem get_of_isEmpty {m : Metadata} (h : m.isEmpty = true) (table : Table) :
    m.get table = .empty :=
  StringMap.eq_empty_of_isEmpty (List.all_eq_true.1 h table (Table.mem_all table))

/-- A key in the form in which it is stored: symbols as they are, files in normal form. -/
def key (table : Table) (text : List Char) : String :=
  match table with
  | .exportIndex => String.ofList text
  | _ => String.ofList (Path.normalizeChars text)

/-- The entry that a line of a table is, if it has a mark and a key. -/
def entryOf? (table : Table) (line : String) : Option (String × List String) :=
  match cutAt? table.mark (trim line.toList) with
  | none => none
  | some (front, rest) =>
    let front := trim front
    if front.isEmpty then none
    else
      let members := (splitAt ',' rest).map Path.normalizeChars
      some (key table front, (members.filter (! ·.isEmpty)).map String.ofList)

/-- Adds the entries of a section's lines to a table. -/
def addLines (m : Metadata) (table : Table) (body : List String) : Metadata :=
  m.set table (body.foldl
    (fun entries line =>
      match entryOf? table line with
      | some (k, members) => entries.linkAll k members
      | none => entries)
    (m.get table))

/-- The tables of the sections with these names and lines; sections with other names are passed
over. -/
def ofSections (sections : List (String × List String)) : Metadata :=
  sections.foldl
    (fun m (name, body) =>
      match Table.ofName? name with
      | some table => m.addLines table body
      | none => m)
    {}

/-! ## Looking up -/

def importsOf (m : Metadata) (file : String) : List String :=
  (m.importGraph.linked (Path.normalize file)).toList

def importersOf (m : Metadata) (file : String) : List String :=
  (m.whoImports.linked (Path.normalize file)).toList

def exportersOf (m : Metadata) (symbol : String) : List String :=
  (m.exportIndex.linked symbol).toList

/-! ## Writing -/

def renderEntry (table : Table) (e : String × StringSet) : String :=
  e.1 ++ table.spacedMark ++ joined ", " e.2.toList ++ "\n"

/-- A table as a section; nothing at all when it is empty. -/
def renderTable (m : Metadata) (table : Table) : String :=
  let entries := m.get table
  if entries.isEmpty then ""
  else
    Title.renderMetadata table.name
      ++ String.join (entries.entries.map (renderEntry table)) ++ "\n"

/-- The tables as sections of a snapshot. -/
def render (m : Metadata) : String :=
  String.join (Table.all.map m.renderTable)

end Metadata

end CodeSnapshot

import CodeSnapshot.Document.Basic
import CodeSnapshot.Project.Components
import CodeSnapshot.Project.Export
import CodeSnapshot.Project.Import
import CodeSnapshot.Project.SourceFile

/-!
# Projects

What is known about the source files of a snapshot: which files there are, what they import and
export, which file imports which, and which symbol is exported where. Only imports of files of the
project make it into the graphs.
-/

namespace CodeSnapshot

structure Project where
  files : StringSet := .empty
  imports : List ImportEdge := []
  exports : List ExportRecord := []
  importGraph : Graph := .empty
  reverseGraph : Graph := .empty
  symbolIndex : StringMap StringSet := .empty
  deriving Repr, DecidableEq, Inhabited

/-- Why a file's imports are not known. -/
inductive ProjectError where
  | notAnalyzed (file : String)
  | unsupported (file : String)
  deriving Repr, DecidableEq

def ProjectError.message : ProjectError → String
  | notAnalyzed file => "File not analyzed: " ++ file
  | unsupported file => "Unsupported source file: " ++ file

namespace Project

/-- Adds an import, and its edge if it stands for a file of the project. -/
def addImport (p : Project) (e : ImportEdge) : Project :=
  match e.resolved with
  | none => { p with imports := p.imports ++ [e] }
  | some target =>
    { p with
      imports := p.imports ++ [e]
      importGraph := p.importGraph.link e.source target
      reverseGraph := p.reverseGraph.link target e.source }

def addExport (p : Project) (r : ExportRecord) : Project :=
  { p with
    exports := p.exports ++ [r]
    symbolIndex := p.symbolIndex.link r.symbol r.file }

/-- Reads one file of a project whose files are all known. -/
def addSource (p : Project) (source : String × String) : Project :=
  let (path, text) := source
  let edges := (ImportEdge.ofSource path text).map fun e =>
    { e with resolved := SourceFile.resolve? p.files.contains path e.specifier }
  (ExportRecord.ofSource path text).foldl addExport (edges.foldl addImport p)

/-- The files that are read, under their normal form. -/
def supported (sources : List (String × String)) : List (String × String) :=
  (sources.map fun (path, text) => (Path.normalize path, text)).filter fun (path, _) =>
    SourceFile.isSupported path

/-- The project of some files with their texts. -/
def ofSources (sources : List (String × String)) : Project :=
  let sources := supported sources
  sources.foldl addSource { files := StringSet.ofList (sources.map (·.1)) }

/-- The project that tables describe. Who imports whom is taken from both tables of imports; single
imports and exports are not part of the tables. -/
def ofMetadata (m : Metadata) : Project :=
  let forward := m.importGraph.entries.foldl
    (fun (p : Project) (file, targets) =>
      targets.toList.foldl
        (fun (p : Project) target =>
          { p with
            files := p.files.insert target
            reverseGraph := p.reverseGraph.link target file })
        { p with files := p.files.insert file })
    { importGraph := m.importGraph, symbolIndex := m.exportIndex }
  m.whoImports.entries.foldl
    (fun (p : Project) (file, importers) =>
      importers.toList.foldl
        (fun (p : Project) importer =>
          { p with
            files := p.files.insert importer
            reverseGraph := p.reverseGraph.link file importer
            importGraph := p.importGraph.link importer file })
        { p with files := p.files.insert file })
    forward

/-- The source files of a document with their texts. -/
def sourcesOf (d : Document) : List (String × String) :=
  (d.files.filter fun (path, _) => SourceFile.isSupported path).filterMap fun (path, _) =>
    (d.fileContent? path).map (path, ·)

/-- The project of a document: read from its source files, or from its tables if it has tables and
no source files. -/
def ofDocument (d : Document) : Project :=
  let sources := sourcesOf d
  if sources.isEmpty && !d.metadata.isEmpty then ofMetadata d.metadata else ofSources sources

/-! ## Questions -/

def isAnalyzed (p : Project) (file : String) : Bool :=
  p.files.contains (Path.normalize file)

/-- The files of the project that a file imports. -/
def importsOf (p : Project) (file : String) : List String :=
  p.importGraph.next (Path.normalize file)

/-- The files that import a file. -/
def importersOf (p : Project) (file : String) : List String :=
  p.reverseGraph.next (Path.normalize file)

/-- The files that export a symbol. -/
def exportersOf (p : Project) (symbol : String) : List String :=
  (p.symbolIndex.linked (Text.trimmed symbol)).toList

/-- The imports of a file, also those of files outside the project. -/
def edgesFrom (p : Project) (file : String) : List ImportEdge :=
  p.imports.filter (·.source == Path.normalize file)

def exportsOf (p : Project) (file : String) : List ExportRecord :=
  p.exports.filter (·.file == Path.normalize file)

/-- The files that a file imports, or why they are not known. -/
def tryImportsOf (p : Project) (file : String) : Except ProjectError (List String) :=
  let normal := Path.normalize file
  if !SourceFile.isSupported normal then .error (.unsupported normal)
  else if !p.isAnalyzed normal then .error (.notAnalyzed normal)
  else .ok (p.importsOf file)

/-- Files that import each other in a circle, and files that import themselves. -/
def cycles (p : Project) : List (List String) :=
  p.importGraph.cycles

/-- The files that depend on a file within a number of imports, nearest first. -/
def impact (p : Project) (file : String) (maxDepth : Nat) : List Reach :=
  p.reverseGraph.within (Path.normalize file) maxDepth

/-- The tables that describe the project. -/
def toMetadata (p : Project) : Metadata :=
  { importGraph := p.importGraph, exportIndex := p.symbolIndex, whoImports := p.reverseGraph }

end Project

end CodeSnapshot

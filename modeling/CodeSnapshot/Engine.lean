import CodeSnapshot.Cache.Projects
import CodeSnapshot.Config.Basic

/-!
# The engine

One cache of documents and one memory of projects, which serve sessions with a model and questions
that need no model.
-/

namespace CodeSnapshot

/-- Why an analysis comes to nothing. -/
inductive AnalyzeError where
  | provider (e : ProviderError)
  | snapshot (e : SnapshotError)
  deriving Repr, DecidableEq

def AnalyzeError.message : AnalyzeError → String
  | provider e => "Provider error: " ++ e.message
  | snapshot e => "Snapshot error: " ++ e.message

/-- A document and its project: what questions about the structure of a snapshot are answered from.
Unknown files and symbols have empty answers. -/
structure StructuralQueries where
  document : Document
  project : ProjectHandle
  deriving Repr, Inhabited

namespace StructuralQueries

/-- The queries of a document whose project is worked out for them alone. -/
def ofDocument (d : Document) : StructuralQueries :=
  ⟨d, ⟨0, Project.ofDocument d⟩⟩

def importsOf (q : StructuralQueries) (file : String) : List String :=
  q.project.project.importsOf file

def importersOf (q : StructuralQueries) (file : String) : List String :=
  q.project.project.importersOf file

def exportersOf (q : StructuralQueries) (symbol : String) : List String :=
  q.project.project.exportersOf symbol

def cycles (q : StructuralQueries) : List (List String) :=
  q.project.project.cycles

def impact (q : StructuralQueries) (file : String) (maxDepth : Nat) : List Reach :=
  q.project.project.impact file maxDepth

def stats (q : StructuralQueries) : DocumentStats :=
  q.document.stats

/-- Lines around one line of a file, if the snapshot has the file. -/
def lineContext? (q : StructuralQueries) (file : String) (line before after : Nat) :
    Option ContextWindow :=
  (q.document.contextWindow file line before after).toOption

end StructuralQueries

structure Engine where
  cache : DocumentCache
  memo : ProjectMemo
  config : EngineConfig

namespace Engine

/-- An engine that uses a cache. -/
def withCache (cache : DocumentCache) (config : EngineConfig) : Engine :=
  { cache, memo := .ofCapacity config.cacheCapacity, config }

/-- An engine with a cache of its own. -/
def ofConfig (config : EngineConfig) : Engine :=
  withCache (.ofCapacity config.cacheCapacity) config

/-- The document of a snapshot. -/
def load (e : Engine) (disk : Disk) (path : String) : Except SnapshotError Handle × Engine :=
  let (handle, cache) := e.cache.load disk path
  (handle, { e with cache })

/-- Questions about the structure of a snapshot. -/
def structural (e : Engine) (disk : Disk) (path : String) :
    Except SnapshotError StructuralQueries × Engine :=
  match e.load disk path with
  | (.error err, e) => (.error err, e)
  | (.ok handle, e) =>
    let (project, memo) := e.memo.projectOf handle
    (.ok ⟨handle.document, project⟩, { e with memo })

/-- A session about a snapshot. -/
def analyze [Regexes] [Sorting] (e : Engine) (disk : Disk) (path query : String)
    (limits : SessionLimits) (model : Session.Model) : Except SnapshotError Conversation × Engine :=
  match e.load disk path with
  | (.error err, e) => (.error err, e)
  | (.ok handle, e) => (.ok ((Session.start handle.document query limits).run model), e)

end Engine

end CodeSnapshot

import CodeSnapshot.CommandLine.Run
import CodeSnapshot.Instances

/-!
# The program

Gathers the surroundings of a run (the files that it may read, the environment variables that it may
ask for, the account that it runs for), runs it, and prints what comes of it. There is no connection to
a model's server.
-/

namespace CodeSnapshot.Main

/-- The disk with the directories on the way to a canonical path. -/
def withDirectories (disk : Disk) (path : String) : Disk :=
  ((Location.parts path).dropLast.foldl
    (fun (disk, directory) part =>
      let next := Location.join directory part
      (disk.put next .directory, next)) (disk, "/")).1

/-- The canonical path of something, if it is there. -/
def realPath? (path : String) : IO (Option String) := do
  try return some (← IO.FS.realPath path).toString catch _ => return none

/-- What stands at a canonical path. When a file was changed does not matter within one run. -/
def nodeAt (path : String) : IO Node := do
  let metadata ← (← IO.FS.realPath path).metadata
  if metadata.type == .dir then return .directory
  else return .file (String.fromUTF8? (← IO.FS.readBinFile path)) 0

/-- Follows the segments of a path from a directory, and records what stands on the way. -/
def recorded (disk : Disk) (directory : String) : List String → IO Disk
  | [] => return disk
  | segment :: rest => do
    if segment = "" || segment = "." then recorded disk directory rest
    else if segment = ".." then recorded disk ((Location.parent? directory).getD "/") rest
    else
      let entry := Location.join directory segment
      match ← realPath? entry with
      | none => return disk
      | some real =>
        let linked := if real = entry then disk else disk.put entry (.link real)
        let disk := (withDirectories linked real).put real (← nodeAt real)
        recorded disk real rest

/-- The disk with what stands at a path. -/
def withPath (disk : Disk) (path : String) : IO Disk :=
  recorded disk "/" (Location.segments (Location.join disk.workingDirectory path))

/-- The values of some environment variables. -/
def valuesOf (names : List String) : IO (List (String × String)) := do
  let values ← names.mapM fun name => do return (name, ← IO.getEnv name)
  return values.filterMap fun (name, value) => value.map fun value => (name, value)

/-- The environment with some variables. -/
def environmentOf (known : List (String × String)) : CodeSnapshot.Environment :=
  fun name => (known.find? (·.1 == name)).map (·.2)

/-- The variables that settings are loaded from. -/
def settingNames : List String :=
  "XDG_CONFIG_HOME" :: "HOME" :: Config.knownVariables.map fun v => Config.variableStem ++ v.name

/-- The lines of a system file, none if it cannot be read. -/
def systemLines (path : String) : IO (List String) := do
  try return (← IO.FS.lines path).toList catch _ => return []

/-- The home in an account's line of the list of accounts. -/
def homeOf? (user line : String) : Option String :=
  match line.splitOn ":" with
  | [_, _, number, _, _, home, _] => if number = user then some home else none
  | _ => none

/-- The home of the account that the program runs for. -/
def accountHome : IO (Option String) := do
  let user? := (← systemLines "/proc/self/status").findSome? fun line =>
    match line.splitOn "\t" with
    | "Uid:" :: user :: _ => some user
    | _ => none
  match user? with
  | none => return none
  | some user => return (← systemLines "/etc/passwd").findSome? (homeOf? user)

/-- The snapshot of a request. -/
def snapshotOf : CommandLine.Request → String
  | .analyze snapshot _ _ | .inspect snapshot _ => snapshot

/-- The surroundings of a run. -/
def surroundings (arguments : List String) : IO CommandLine.Surroundings := do
  let empty : Disk := { workingDirectory := (← IO.currentDir).toString }
  let settings ← valuesOf settingNames
  let account ← accountHome
  let server (_ : Nat) : ServerReply := .refused "no connection"
  match CommandLine.Invocation.parse arguments with
  | .error _ =>
    return { disk := empty, environment := environmentOf settings, accountHome := account, server }
  | .ok i =>
    let usual := Config.usualPath? (environmentOf settings) account
    let paths := i.configFile.toList ++ usual.toList ++ [snapshotOf i.request]
    let disk ← paths.foldlM withPath empty
    let keyNames := match Config.load disk (environmentOf settings) account i.configFile with
      | .ok c => [c.provider.apiKeyVariable]
      | .error _ => []
    let environment := environmentOf (settings ++ (← valuesOf keyNames))
    return { disk, environment, accountHome := account, server }

/-- The number that the process ends with. No run waits here, where there is no server to wait for. -/
def processCode : CommandLine.Exit → UInt32
  | .code n => n.toUInt32
  | .aborted | .never => 101

end CodeSnapshot.Main

def main (arguments : List String) : IO UInt32 := do
  let run := CodeSnapshot.CommandLine.run (← CodeSnapshot.Main.surroundings arguments) arguments
  for message in run.messages do
    IO.eprintln message
  IO.print run.output
  return CodeSnapshot.Main.processCode run.exit

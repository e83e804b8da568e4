import Telemetry.Daemon

/-!
# `uplinkd`

The outer layer: it takes the files that a call needs from the disk, makes the call, and puts the files
that have changed back.
-/

namespace Telemetry.Main

/-- The file at a path, if it can be read. -/
def readFile? (path : String) : IO (Option (List UInt8)) := do
  try
    return some (← IO.FS.readBinFile path).data.toList
  catch _ =>
    return none

def isDirectory (path : String) : IO Bool := do
  ((← IO.currentDir) / path).isDir

/-- The path of a location. -/
def pathOf (l : FileTree.Location) : String := "/" ++ "/".intercalate l

/-- Adds what stands at a location to the tree. -/
def look (tree : FileTree) (l : FileTree.Location) : IO FileTree := do
  if ← isDirectory (pathOf l) then return tree.makeDirectory l
  match ← readFile? (pathOf l) with
  | some content => return tree.put l content
  | none => return tree

/-- Adds what stands at a path, and at all locations on the way to it, to the tree. -/
def explore (tree : FileTree) (path : String) : IO FileTree := do
  let start := if FileTree.isAbsolute path then [] else tree.workingDirectory
  let location := start ++ FileTree.segments path
  (List.range location.length).foldlM (fun t n => look t (location.take (n + 1))) tree

/-- Writes the files that differ from what they were. -/
def putBack (before after : FileTree) : IO Unit := do
  for (l, content) in after.files do
    if before.entry? l != some (.file content) then
      IO.FS.writeBinFile (pathOf l) ⟨content.toArray⟩

/-- The paths that a call reads before it knows the settings. -/
def settingsPaths (environment : CommandLine.Environment) (args : List String) : List String :=
  match CommandLine.parse environment args with
  | .ok i => i.settingsPath.toList ++ Daemon.candidates
  | .error _ => []

/-- The paths of the store and of its temporary file. -/
def storePaths (environment : CommandLine.Environment) (args : List String) (tree : FileTree) :
    List String :=
  match CommandLine.parse environment args with
  | .error _ => []
  | .ok i =>
    match Daemon.settings i.settingsPath tree with
    | .ok s => [s.device.storePath, FileTree.withExtension "tmp" s.device.storePath]
    | .error _ => []

/-- The variables that the command line knows. -/
def environment : IO CommandLine.Environment := do
  let values ← CommandLine.variableNames.mapM fun name => return (name, ← IO.getEnv name)
  return .ofVariables fun name => (values.lookup name).join

def run (args : List String) : IO UInt32 := do
  let environment ← environment
  let home := FileTree.segments (← IO.currentDir).toString
  let tree : FileTree := { workingDirectory := home }
  let tree ← (settingsPaths environment args).foldlM explore tree
  let tree ← (storePaths environment args tree).foldlM explore tree
  let outcome := Daemon.call environment args tree
  putBack tree outcome.tree
  IO.print outcome.output
  return UInt32.ofNat outcome.code

end Telemetry.Main

def main (args : List String) : IO UInt32 := Telemetry.Main.run args

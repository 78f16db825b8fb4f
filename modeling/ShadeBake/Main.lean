import ShadeBake.CommandLine

/-! The program: the files that a command line names are read, the command is carried out on them, and what it
left is written.

Compiler programs are not started from here. So every compilation ends as one whose program could not be
started, and the nodes that feed the surface stay as they are. -/

namespace ShadeBake

namespace Disk

/-- The file or directory on disk, if there is one. -/
partial def loadTree (path : String) : IO (Option FileTree) := do
  try
    let bytes ← IO.FS.readBinFile path
    return some (.file (String.fromUTF8? bytes))
  catch _ =>
    try
      let mut entries := #[]
      for entry in ← (← IO.FS.realPath path).readDir do
        if let some tree ← loadTree entry.path.toString then
          entries := entries.push (entry.fileName, tree)
      return some (.directory entries.toList)
    catch _ => return none

/-- The names down to a path, from the root. -/
def namesOf (workingDirectory : List String) (path : Path) : List String :=
  ((Path.components path).foldl (fun place component =>
    match component with
    | .root => []
    | .current => place
    | .parent => place.drop 1
    | .name text => text :: place) workingDirectory.reverse).reverse

/-- The files with what is on disk at a path. -/
def withPath (files : FileSystem) (path : Path) : IO FileSystem := do
  match ← loadTree path with
  | some tree =>
    return { files with root := FileTree.put tree (namesOf files.workingDirectory path) files.root }
  | none => return files

/-- The files with the directory at a path, without what is in it. -/
def withDirectory (files : FileSystem) (path : Path) : IO FileSystem := do
  let shown := if path = "" then "." else path
  try
    let _ ← (← IO.FS.realPath shown).readDir
    let names := namesOf files.workingDirectory path
    if (files.root.descend? names).isSome then return files
    return { files with root := FileTree.put (.directory []) names files.root }
  catch _ => return files

/-- The variables that a run looks at. -/
def readEnvironment : IO Environment := do
  let names := Configuration.compilerVariable :: Configuration.artifactVariable
    :: Configuration.searchPathVariables
  let mut values : List (String × String) := []
  for name in names do
    if let some value ← IO.getEnv name then
      values := (name, value) :: values
  return fun name => Dict.lookup name values

/-- The files that a command line names. -/
def readFiles (line : CommandLine) (environment : Environment) : IO FileSystem := do
  let here := namesOf [] (← IO.currentDir).toString
  let configuration := Configuration.ofEnvironment environment
  let mut files : FileSystem := ⟨FileTree.put (.directory []) here (.directory []), here⟩
  for path in line.network.toList ++ line.registry.toList ++ configuration.searchPaths
      ++ line.searchPaths do
    files ← withPath files path
  files ← withDirectory files configuration.artifactDirectory
  for path in line.output.toList do
    files ← withDirectory files ((Path.parent? path).getD "")
  return files

/-- The output file written to disk, with the exit code. -/
def writeOutput (path : Path) (result : CommandResult) : IO UInt32 := do
  match result.files.read path with
  | .error _ => return 1
  | .ok text =>
    try
      IO.FS.writeFile path text
      return 0
    catch _ =>
      IO.eprintln ("Error: " ++ (CommandError.unwritable path).message)
      return 1

end Disk

end ShadeBake

open ShadeBake in
/-- Carries out the command that the arguments make. -/
def main (arguments : List String) : IO UInt32 := do
  let environment ← Disk.readEnvironment
  let line := (CommandLine.parse arguments).toOption.getD {}
  let files ← Disk.readFiles line environment
  let result := CommandLine.run arguments
    { environment, files, execute := fun _ files => (.notStarted, files) }
  IO.eprint result.messages
  IO.print result.output
  match line.output with
  | some path => if result.code = 0 then Disk.writeOutput path result else return 1
  | none => return result.code.toUInt32

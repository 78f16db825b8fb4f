import ShadeBake.Compile.ArtifactPath
import ShadeBake.Compile.Compiler

/-! Compiling with a program that reads a source file and writes a compiled one. -/

namespace ShadeBake

/-- How a program ended: it could not be started, or it exited, with success or not, after some words. -/
inductive ProgramResult where
  | notStarted
  | exited (success : Bool) (words : String)
  deriving DecidableEq, Repr

/-- A program takes arguments and may change files. -/
abbrev ExternalProgram := List String → FileSystem → ProgramResult × FileSystem

/-- The files that a compiler works on, and the serial number of its next artifact. -/
structure Workshop where
  files : FileSystem
  serial : Nat := 0

/-- A compiler program: the path it is called by, what it does, and where its artifacts go. -/
structure ExternalCompiler where
  program : Path
  execute : ExternalProgram
  directory : Path

namespace ExternalCompiler

/-- The directory of a search path that sources include from: the one of the shading language below it if
that is there, and else the path itself. -/
def includeDirectory (files : FileSystem) (path : Path) : Path :=
  let specific := Path.join (Path.join path "stdlib") "osl"
  if files.isDirectory specific then specific else path

/-- The directories that sources include from. -/
def includeDirectories (files : FileSystem) (searchPaths : List Path) : List Path :=
  searchPaths.map (includeDirectory files)

/-- The arguments of the program. -/
def programArguments (files : FileSystem) (searchPaths : List Path) (destination source : Path) :
    List String :=
  (includeDirectories files searchPaths).map ("-I" ++ ·) ++ ["-o", destination, source]

/-- An argument that a program is started with has fewer bytes. -/
def argumentLimit : Nat := 131072

/-- A program can be started with an argument that holds no NUL and is short enough. -/
def isPassable (argument : String) : Bool :=
  !argument.toList.contains '\x00' && decide (argument.utf8ByteSize < argumentLimit)

/-- What running the program with arguments gives. It is not started when one of them cannot be passed. -/
def run (compiler : ExternalCompiler) (arguments : List String) (files : FileSystem) :
    ProgramResult × FileSystem :=
  if arguments.all isPassable then compiler.execute arguments files else (.notStarted, files)

/-- What becomes of a source: the path of the compiled shader or the cause of failure, and the files after
that. The place for the shader is made first, and the source file is there only while the program runs. -/
def compileFile (compiler : ExternalCompiler) (searchPaths : List Path) (name source : String)
    (workshop : Workshop) : Except CompileError Path × FileSystem :=
  let destination := ArtifactPath.make compiler.directory name "oso" workshop.serial
  let scratch := Path.withExtension destination "osl"
  -- However the program ends the source is deleted, and after a failure the shader's place is too.
  match workshop.files.write? destination "" with
  | none => (.error (.destination destination), workshop.files)
  | some opened =>
    match opened.write? scratch source with
    | none => (.error (.source scratch), opened)
    | some written =>
      let (result, after) :=
        compiler.run (programArguments written searchPaths destination scratch) written
      let cleaned := after.delete scratch
      match result with
      | .notStarted => (.error (.launch compiler.program), cleaned.delete destination)
      | .exited false words => (.error (.refused name (Text.trimmed words)), cleaned.delete destination)
      | .exited true _ => (.ok destination, cleaned)

/-- The compiler that calls the program once for each source. -/
def compile (compiler : ExternalCompiler) (searchPaths : List Path) : Compiler Workshop :=
  fun name source workshop =>
    let (result, files) := compiler.compileFile searchPaths name source workshop
    -- The serial goes on even where nothing was compiled, so that no name is used twice.
    let next : Workshop := ⟨files, workshop.serial + 1⟩
    match result with
    | .ok path => (⟨some ⟨path, files.read path⟩, []⟩, next)
    | .error cause => (⟨none, [.notCompiled cause]⟩, next)

end ExternalCompiler

end ShadeBake

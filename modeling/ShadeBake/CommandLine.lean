import ShadeBake.Bake
import ShadeBake.Compile.External
import ShadeBake.Configuration
import ShadeBake.Network.File
import ShadeBake.Registry.Bundled
import ShadeBake.Registry.Form

/-! The command line: its arguments, and a run on the network in a file. -/

namespace ShadeBake

/-- What the arguments of a command line say. -/
structure CommandLine where
  network : Option Path := none
  output : Option Path := none
  searchPaths : List Path := []
  registry : Option Path := none
  assetRoot : Option Path := none
  deriving DecidableEq, Repr

/-- Why a command line is not carried out. -/
inductive CommandError where
  | missingValue (flag : String)
  | unknownArgument (argument : String)
  | missingNetwork
  | registry (cause : MergeError)
  | network (cause : NetworkFileError)
  | unwritable (path : Path)
  deriving DecidableEq, Repr

namespace CommandError

/-- The arguments in short. -/
def usage : String :=
  "--network <in.json> [--output <out.json>] [--search-path <dir>]... [--registry <extra.json>] "
    ++ "[--asset-root <dir>]"

/-- The words for an error. -/
def message : CommandError → String
  | missingValue flag => s!"missing value for {flag}"
  | unknownArgument argument => s!"unknown argument: {argument} (usage: {usage})"
  | missingNetwork => s!"--network is required (usage: {usage})"
  | registry cause => cause.message
  | network cause => cause.message
  | unwritable path => s!"failed to write network json to {path}"

end CommandError

namespace CommandLine

/-- What a flag with a value adds to a command line, if the flag is known. -/
def set? (line : CommandLine) (flag : String) : Option (Path → CommandLine) :=
  match flag with
  | "--network" => some fun path => { line with network := some path }
  | "--output" | "-o" => some fun path => { line with output := some path }
  -- This one may be given again, and all that are given count.
  | "--search-path" => some fun path => { line with searchPaths := line.searchPaths ++ [path] }
  | "--registry" => some fun path => { line with registry := some path }
  | "--asset-root" => some fun path => { line with assetRoot := some path }
  | _ => none

/-- The command line with more arguments: flags, each followed by its value. -/
def parseFrom (line : CommandLine) : List String → Except CommandError CommandLine
  | [] => .ok line
  | flag :: rest =>
    -- An unknown flag is reported even where its value is missing too.
    match line.set? flag, rest with
    | none, _ => .error (.unknownArgument flag)
    | some _, [] => .error (.missingValue flag)
    | some set, value :: rest => parseFrom (set value) rest

/-- The command line that arguments make. -/
def parse (arguments : List String) : Except CommandError CommandLine :=
  parseFrom {} arguments

/-- The directory that references are resolved below: the one given, or else that of the network's file. -/
def resolverRoot (line : CommandLine) (network : Path) : Option Path :=
  line.assetRoot <|> (Path.parent? network).filter (· ≠ "")

end CommandLine

/-- What a command line is carried out with: the variables, the files and the compiler program. -/
structure CommandContext where
  environment : Environment
  files : FileSystem
  execute : ExternalProgram

/-- What a command line leaves: the exit code, what it printed and the files. -/
structure CommandResult where
  code : Nat
  output : String
  messages : String
  files : FileSystem

namespace CommandLine

/-- The line that sums up a run. -/
def summary (report : BakeReport) : String :=
  s!"[matfilt] {report.materialPath}: {report.compiled} shader(s) compiled, "
    ++ s!"{report.pruned} node(s) pruned, {report.warnings.length} warning(s)\n"

/-- The registry of a run: the bundled one, with the file that the command line names. -/
def registryFor (line : CommandLine) (files : FileSystem) : Except CommandError Registry :=
  match line.registry with
  | none => .ok Registry.bundled
  | some path =>
    -- What the file defines comes beside what is bundled, or in its place.
    match Registry.bundled.mergeFile files path with
    | .ok (_, registry) => .ok registry
    | .error cause => .error (.registry cause)

/-- The run that a command line asks for, before its result is written. -/
def bake (line : CommandLine) (context : CommandContext) : Except CommandError (Baked Workshop) := do
  -- Of two things at fault the registry file is reported before the network's.
  let some path := line.network | throw .missingNetwork
  let environment := Configuration.ofEnvironment context.environment
  let configuration := line.searchPaths.foldl Configuration.withSearchPath environment
  let registry ← line.registryFor context.files
  let network ← (Network.load context.files path).mapError .network
  let compiler : ExternalCompiler :=
    ⟨configuration.compiler, context.execute, configuration.artifactDirectory⟩
  return Network.bakeMaterial {
      library := DefinitionLibrary.load context.files configuration.searchPaths
      resolver := Resolver.below (line.resolverRoot path)
      nativeExtension := configuration.nativeExtension
      plugin := configuration.plugin }
    (compiler.compile configuration.searchPaths) registry { files := context.files }
    network.materialPath network

/-- The result of a command that fails after it printed some messages. -/
def failed (files : FileSystem) (messages : String) (cause : CommandError) : CommandResult :=
  ⟨1, "", messages ++ "Error: " ++ cause.message ++ "\n", files⟩

/-- The command carried out: the network goes to the output file or is printed, and the summary is printed
apart. -/
def carryOut (line : CommandLine) (context : CommandContext) : CommandResult :=
  match line.bake context with
  | .error cause => failed context.files "" cause
  | .ok baked =>
    let text := baked.network.toText
    let messages := summary baked.report
    match line.output with
    | none => ⟨0, text ++ "\n", messages, baked.compiler.files⟩
    | some path =>
      -- The summary is printed before the file is written, so it stays where writing fails.
      match baked.compiler.files.write? path text with
      | some files => ⟨0, "", messages, files⟩
      | none => failed baked.compiler.files messages (.unwritable path)

/-- The command that arguments make, carried out. -/
def run (arguments : List String) (context : CommandContext) : CommandResult :=
  match parse arguments with
  | .error cause => failed context.files "" cause
  | .ok line => line.carryOut context

end CommandLine

end ShadeBake

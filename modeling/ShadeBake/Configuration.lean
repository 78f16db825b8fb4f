import ShadeBake.Path

/-! The configuration of a run, read from the environment. -/

namespace ShadeBake

/-- Where definitions are looked for, the compiler program and the directory of its artifacts, the extension
of native textures and the texture plugin. -/
structure Configuration where
  searchPaths : List Path := []
  compiler : Path := "oslc"
  artifactDirectory : Path := "/tmp"
  nativeExtension : String := "tex"
  plugin : String := "RtxHioImage.so"
  deriving DecidableEq, Repr

/-- The values of the variables that are set. -/
abbrev Environment := String → Option String

namespace Configuration

/-- The variables that list search paths, in the order in which these are searched. -/
def searchPathVariables : List String :=
  ["PXR_MTLX_STDLIB_SEARCH_PATHS", "PXR_MTLX_PLUGIN_SEARCH_PATHS"]

/-- The variable for the compiler program. -/
def compilerVariable : String := "OSLC"

/-- The variable for the directory of artifacts. -/
def artifactVariable : String := "TMPDIR"

/-- The paths in a list separated by colons; empty ones are left out. -/
def splitPaths (list : String) : List Path :=
  ((Text.splitOn (· = ':') list.toList).filter (· ≠ [])).map String.ofList

/-- The configuration that an environment sets. -/
def ofEnvironment (environment : Environment) : Configuration :=
  -- A program named by an empty text counts as not named.
  let default : Configuration := {}
  { default with
    searchPaths := searchPathVariables.flatMap fun name => splitPaths ((environment name).getD "")
    compiler := ((environment compilerVariable).filter (· ≠ "")).getD default.compiler
    artifactDirectory := (environment artifactVariable).getD default.artifactDirectory }

/-- The configuration with one more search path. -/
def withSearchPath (configuration : Configuration) (path : Path) : Configuration :=
  { configuration with searchPaths := configuration.searchPaths ++ [path] }

end Configuration

end ShadeBake

import ShadeBake.Path

/-! Why a shader is not compiled. -/

namespace ShadeBake

/-- The step at which compiling failed. -/
inductive CompileError where
  | destination (path : Path)
  | source (path : Path)
  | launch (program : Path)
  | refused (name words : String)
  deriving DecidableEq, Repr

namespace CompileError

/-- The words for an error. -/
def message : CompileError → String
  | destination path => s!"Unable to save compiled MaterialX Osl shader at '{path}'"
  | source path => s!"Unable to write MaterialX Osl source at '{path}'"
  | launch program => s!"Unable to run Osl compiler '{program}'"
  | refused name words => s!"Osl compiler failed for '{name}': {words}"

end CompileError

end ShadeBake

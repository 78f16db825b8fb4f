import ShadeBake.Compile.Error
import ShadeBake.Registry.Basic
import ShadeBake.Shader.Error
import ShadeBake.WrapMode

/-! What a run warns of and goes on after. -/

namespace ShadeBake

/-- A warning. -/
inductive Warning where
  | unknownNode (node : String)
  | unknownSource (source node input : String)
  | missingOutput (output node : String)
  | missingGraph (graph : String)
  | missingNode (node graph : String)
  | notGenerated (node : String) (cause : EmitError)
  | notCompiled (cause : CompileError)
  | compilingDisabled
  | notRegistered (node : String) (cause : RegisterError)
  | unsupportedType (type : String)
  | missingAdapter (type : String)
  | missingClosure (type : String)
  | missingTexture (node : String)
  | missingFile (node : String)
  | assumedPrimvar (node primvar : String)
  | approximatedMode (node mode : String)
  deriving DecidableEq, Repr

namespace Warning

/-- The words for a warning. -/
def message : Warning → String
  | unknownNode node => s!"Unknown material node '{node}'"
  | unknownSource source node input =>
    s!"Unknown material node '{source}' feeding '{node}.{input}'"
  | missingOutput output node => s!"Output '{output}' not found on node '{node}'."
  | missingGraph graph => s!"NodeGraph '{graph}' not found in the mxDoc."
  | missingNode node graph => s!"Node '{node}' not found in '{graph}' nodeGraph."
  | notGenerated node cause => s!"Unable to create Shader for node '{node}': {cause.message}"
  | notCompiled cause => cause.message
  | compilingDisabled =>
    "Unable to compile MaterialX generated Osl shader, enable OSL support."
  | notRegistered node cause =>
    s!"Unable to register compiled shader for node '{node}': {cause.message}"
  | unsupportedType type => s!"Unsupported Node Type '{type}'"
  | missingAdapter type => s!"No sdrAdapter node of type '{type}'"
  | missingClosure type => s!"No shader node of type '{type}'"
  | missingTexture node => s!"Cannot find texture node '{node}' in material network."
  | missingFile node => s!"File path missing for texture node '{node}'."
  | assumedPrimvar node primvar =>
    s!"No primvar hint for texture node '{node}', using '{primvar}'."
  | approximatedMode node mode =>
    let used := (WrapMode.ofAddressMode mode).name
    s!"RtxHioImagePlugin: Texture '{node}' has unsupported wrap mode '{mode}' using '{used}' instead."

end Warning

end ShadeBake

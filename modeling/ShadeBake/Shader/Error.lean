import ShadeBake.Shader.Constant

/-! Why a node cannot be expressed as a shader. -/

namespace ShadeBake

/-- The cause for which no source can be generated. -/
inductive EmitError where
  | cycle (node : String)
  | outsideGraph (node input source graph : String)
  | inexpressible (value : Literal) (type : ShaderType)
  | unknownNode (node source : String)
  | undeclaredOutput (node input output source : String)
  | unsupportedInput (node input type : String)
  | unsupportedResult (node type : String)
  | undefinedNode (node : String)
  | unsupportedOutput (node output type : String)
  deriving DecidableEq, Repr

namespace EmitError

/-- The words for an error. -/
def message : EmitError → String
  | cycle node => s!"cycle detected at node '{node}'"
  | outsideGraph node input source graph =>
    s!"node '{node}' input '{input}' references '{source}' outside graph '{graph}'"
  | inexpressible value type => s!"cannot express {value.shown} as OSL {type.name}"
  | unknownNode node source => s!"node '{node}' references unknown node '{source}'"
  | undeclaredOutput node input output source =>
    s!"node '{node}' input '{input}' reads undeclared output '{output}' of '{source}'"
  | unsupportedInput node input type => s!"input '{node}.{input}' has unsupported type '{type}'"
  | unsupportedResult node type => s!"node '{node}' has unsupported output type '{type}'"
  | undefinedNode node => s!"node '{node}' has no MaterialX definition"
  | unsupportedOutput node output type =>
    s!"node '{node}' output '{output}' has unsupported type '{type}'"

end EmitError

end ShadeBake

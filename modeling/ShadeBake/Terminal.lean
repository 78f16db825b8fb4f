import ShadeBake.Conversion.Basic

/-! Replacing the terminal by an adapter that feeds the native closure. -/

namespace ShadeBake

/-- The two kinds of surface that there is an adapter for. -/
inductive Surface where
  | standard
  | preview
  deriving DecidableEq, Repr

namespace Surface

/-- The type of the nodes of a surface. -/
def nodeType : Surface → String
  | standard => "ND_standard_surface_surfaceshader"
  | preview => "ND_UsdPreviewSurface_surfaceshader"

/-- The type of the adapter for a surface. -/
def adapter : Surface → String
  | standard => "StandardSurfaceParameters"
  | preview => "UsdPreviewSurfaceParameters"

/-- The surface that a node type is; no other type has an adapter. -/
def ofNodeType (type : String) : Except Warning Surface :=
  if type = nodeType standard then .ok standard
  else if type = nodeType preview then .ok preview
  else .error (.unsupportedType type)

end Surface

/-- The type of the native closure. -/
def closureNodeType : String := "PxrSurface"

/-- The name of the closure node for a terminal. -/
def closureNode (terminal : String) : String :=
  terminal ++ "_" ++ closureNodeType

namespace Network

/-- The network with one parameter of a node under the adapters' name for it. -/
def renameParameter (network : Network) (node name : String) : Network :=
  match renamedInput? name with
  | none => network
  | some renamed =>
    -- The adapters' name replaces whatever was authored under it.
    match network.parameter? node name with
    | some value => (network.setParameter node renamed value).deleteParameter node name
    | none => network.deleteParameter node name

/-- The network with the parameters of a terminal as its adapter names them. Only the adapter of the
standard surface reserves names. -/
def renameParameters (network : Network) (surface : Surface) (node : String) : Network :=
  match surface with
  | .standard => (network.parameterNames node).foldl (renameParameter · node) network
  | .preview => network

/-- The network with an input of the closure fed by the output that the adapter has for it, if it has one.
-/
def connectClosure (adapter : ShaderEntry) (terminal : String) (network : Network) (input : String) :
    Network :=
  if adapter.hasOutput (input ++ "Out") then
    network.setInput (closureNode terminal) input ⟨terminal, input ++ "Out"⟩
  else network

/-- The network with a terminal adapted and the surface slot bound to a closure that it feeds. -/
def adapt (network : Network) (terminal : String) (surface : Surface) (adapter closure : ShaderEntry) :
    Network :=
  let retyped := (network.setType terminal surface.adapter).renameParameters surface terminal
  -- The closure reads from the adapter, so that one is set up first.
  let opened := retyped.setType (closureNode terminal) closureNodeType
  let connected := closure.inputNames.foldl (connectClosure adapter terminal) opened
  connected.setTerminal surfaceTerminal ⟨closureNode terminal, ""⟩

/-- The network with a terminal adapted, or a warning why it cannot be. -/
def transformTerminal (registry : Registry) (network : Network) (terminal : String) :
    Except Warning Network :=
  -- All that can be missing is looked up before anything is changed.
  match Surface.ofNodeType (network.typeOf terminal) with
  | .error warning => .error warning
  | .ok surface =>
    match registry.findTyped? surface.adapter ShaderEntry.shaderType with
    | none => .error (.missingAdapter surface.adapter)
    | some adapter =>
      match registry.findTyped? closureNodeType ShaderEntry.closureType with
      | none => .error (.missingClosure closureNodeType)
      | some closure => .ok (network.adapt terminal surface adapter closure)

end Network

end ShadeBake

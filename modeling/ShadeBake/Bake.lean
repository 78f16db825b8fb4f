import ShadeBake.Document.Build
import ShadeBake.Terminal
import ShadeBake.Texture

/-! Baking a material network: what feeds its surface becomes compiled shaders, and an adapter of the
surface feeds the native closure. -/

namespace ShadeBake

/-- What a run is given besides the network: the library of definitions with the search paths it was read
from, the resolver of references, the native extension of textures and the texture plugin. -/
structure BakeContext where
  library : DefinitionLibrary
  resolver : Resolver
  nativeExtension : String
  plugin : String

/-- What a run did. -/
structure BakeReport where
  materialPath : String := ""
  texturesUpdated : Nat := 0
  generated : Nat := 0
  compiled : Nat := 0
  converted : Nat := 0
  pruned : Nat := 0
  transformed : Bool := false
  warnings : List Warning := []
  deriving DecidableEq, Repr

/-- What a run leaves: the network, the registry with the compiled shaders, the state of the compiler and
the report. -/
structure Baked (σ : Type) where
  network : Network
  registry : Registry
  compiler : σ
  report : BakeReport

namespace Bake

/-- What texture reads are routed with. -/
def textureContext (context : BakeContext) (registry : Registry) : TextureContext where
  registry := registry
  resolver := context.resolver
  nativeExtension := context.nativeExtension
  plugin := context.plugin

/-- The document that shaders are generated from: built for what feeds a terminal and with its textures
routed. The nodes outside its graphs are left out. -/
def routedDocument (context : BakeContext) (registry : Registry) (network : Network)
    (terminal : String) : RoutedDocument :=
  -- Warnings come in the order of the work: first from building, then from routing.
  let built := Document.build ⟨registry, context.library⟩ network terminal (network.inputNames terminal)
  let routed := built.document.routeTextures (textureContext context registry) network built.texturePaths
  let material := NodePath.materialName network.materialPath
  { routed with
    document := (routed.document.removeNode (NodePath.shaderName material)).removeNode material
    warnings := built.warnings ++ routed.warnings }

/-- The run so far when the terminal reads nothing. -/
def untouched {σ : Type} (registry : Registry) (compiler : σ) (network : Network) : Baked σ :=
  ⟨network, registry, compiler, { materialPath := network.materialPath }⟩

/-- The run with what feeds the terminal converted; where it reads nothing there is nothing to convert. -/
def convertInputs {σ : Type} (context : BakeContext) (compile : Compiler σ) (registry : Registry)
    (compiler : σ) (network : Network) (terminal : String) : Baked σ :=
  -- Without inputs not even the document is built, so no warning comes of it.
  if network.inputNames terminal = [] then untouched registry compiler network
  else
    let routed := routedDocument context registry network terminal
    let conversion := network.convertInputs compile routed.document context.library.searchPaths
      registry compiler terminal
    { network := conversion.network
      registry := conversion.registry
      compiler := conversion.compiler
      report := {
        materialPath := network.materialPath
        texturesUpdated := routed.updated
        generated := conversion.summary.generated
        compiled := conversion.summary.compiled
        converted := conversion.summary.converted.length
        pruned := conversion.summary.pruned.length
        warnings := routed.warnings ++ conversion.warnings } }

/-- The run with the terminal transformed, or with one more warning. -/
def transform {σ : Type} (baked : Baked σ) (terminal : String) : Baked σ :=
  match baked.network.transformTerminal baked.registry terminal with
  | .ok network => { baked with network, report := { baked.report with transformed := true } }
  -- The network that was converted stays, without its closure.
  | .error warning =>
    { baked with
      report := { baked.report with warnings := baked.report.warnings ++ [warning] } }

/-- The node that the surface slot is bound to, if its type is a registered definition. -/
def surfaceNode? (registry : Registry) (network : Network) : Option String := do
  -- A slot bound to a node that is not there has the empty type, which no definition has by default.
  let binding ← network.terminal? Network.surfaceTerminal
  let _ ← registry.definition? (network.typeOf binding.source)
  return binding.source

end Bake

/-- The run on a network. One whose surface is not bound to a node with a definition stays as it is. -/
def Network.bake {σ : Type} (context : BakeContext) (compile : Compiler σ) (registry : Registry)
    (compiler : σ) (network : Network) : Baked σ :=
  match Bake.surfaceNode? registry network with
  -- There is nothing to do for a material without a surface that is known.
  | none => Bake.untouched registry compiler network
  | some terminal =>
    Bake.transform (Bake.convertInputs context compile registry compiler network terminal) terminal

/-- The run on the network of a material; a path given for the material replaces the network's. -/
def Network.bakeMaterial {σ : Type} (context : BakeContext) (compile : Compiler σ) (registry : Registry)
    (compiler : σ) (materialPath : String) (network : Network) : Baked σ :=
  Network.bake context compile registry compiler
    (if materialPath = "" then network else { network with materialPath })

end ShadeBake

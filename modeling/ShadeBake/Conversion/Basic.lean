import ShadeBake.Compile.Compiler
import ShadeBake.Network.NodePath
import ShadeBake.Conversion.Gather
import ShadeBake.Conversion.Prune
import ShadeBake.Shader.Generate

/-! Replacing the nodes that feed a terminal by compiled shaders.

Each node that the terminal reads directly becomes one shader for all that feeds it, and nodes further away
are pruned. A node that several inputs read is compiled once. -/

namespace ShadeBake

/-- The inputs of surfaces whose names the adapters reserve, with the adapters' names for them. -/
def reservedInputs : List (String × String) :=
  [("emission", "emission_value"), ("subsurface", "subsurface_value"), ("normal", "input_normal")]

/-- The name that the adapters have for an input with a reserved name. -/
def renamedInput? (name : String) : Option String :=
  Dict.lookup name reservedInputs

namespace Network

/-- The network with an input of a terminal connected, under the adapters' name for it. -/
def connectTerminal (network : Network) (terminal input : String) (connection : Connection) : Network :=
  match renamedInput? input with
  -- The adapters' name replaces whatever was connected under it.
  | some renamed => (network.setInput terminal renamed connection).deleteInput terminal input
  | none => network.setInput terminal input connection

/-- The network with an input of a terminal bound to a converted node, or unbound with a warning where the
compiled shader lacks the output. -/
def bindConverted (network : Network) (terminal input : String) (connection : Connection)
    (entry : ShaderEntry) : Network × List Warning :=
  if entry.hasOutput connection.output then
    (network.connectTerminal terminal input connection, [])
  else
    -- The connection would read an output that the shader does not have.
    (network.deleteInput terminal input, [.missingOutput connection.output connection.source])

/-- The network with a node that has neither parameters nor inputs. -/
def stripNode (network : Network) (node : String) : Network :=
  network.modifyNode node fun n => { n with parameters := Dict.empty, inputs := Dict.empty }

end Network

/-- What was done to a network: the nodes that the terminal read, those converted, how many shaders were
generated and compiled, and the nodes pruned. -/
structure ConversionSummary where
  firstLevel : List String := []
  converted : List String := []
  generated : Nat := 0
  compiled : Nat := 0
  pruned : List String := []
  deriving DecidableEq, Repr

/-- A conversion under way: the network and the registry, the state of the compiler, the nodes met on the
way, the summary so far and the warnings. -/
structure Conversion (σ : Type) where
  network : Network
  registry : Registry
  compiler : σ
  keep : NameSet := Dict.empty
  candidates : NameSet := Dict.empty
  visited : NameSet := Dict.empty
  summary : ConversionSummary := {}
  warnings : List Warning := []

namespace Conversion

variable {σ : Type}

/-- The conversion with more warnings. -/
def warn (conversion : Conversion σ) (warnings : List Warning) : Conversion σ :=
  { conversion with warnings := conversion.warnings ++ warnings }

/-- The conversion with an input bound to a converted node. -/
def bind (conversion : Conversion σ) (terminal input : String) (connection : Connection)
    (entry : ShaderEntry) : Conversion σ :=
  let (network, warnings) := conversion.network.bindConverted terminal input connection entry
  { conversion with network, warnings := conversion.warnings ++ warnings }

/-- The conversion with one more input that reads a node met before: it is bound if that was converted. -/
def revisit (conversion : Conversion σ) (terminal input : String) (connection : Connection) : Conversion σ :=
  if connection.source ∈ conversion.summary.converted then
    -- A converted node has the identifier of its shader as its type.
    match (conversion.network.type? connection.source).bind conversion.registry.find? with
    | some entry => conversion.bind terminal input connection entry
    | none => conversion
  else conversion

/-- The conversion with a node met for the first time and all that feeds it collected. -/
def meet (conversion : Conversion σ) (node : String) : Conversion σ :=
  -- The node itself counts as visited, so it is no candidate even if it feeds itself.
  let gathered := conversion.network.gather node conversion.candidates (conversion.visited.add node)
  { conversion with
    keep := conversion.keep.add node
    candidates := gathered.nodes
    visited := gathered.visited
    summary := { conversion.summary with firstLevel := conversion.summary.firstLevel ++ [node] }
    warnings := conversion.warnings ++ gathered.warnings }

/-- The conversion with a node converted to a registered shader, and the input that read it bound. The node
loses what it was computed from. -/
def convert (conversion : Conversion σ) (terminal input : String) (connection : Connection)
    (entry : ShaderEntry) (registry : Registry) : Conversion σ :=
  let node := connection.source
  let bound := { conversion with
    network := conversion.network.setType node entry.identifier
    registry
    summary := { conversion.summary with converted := conversion.summary.converted ++ [node] } }.bind
      terminal input connection entry
  -- The node is stripped last: where the terminal reads itself, this undoes the binding too.
  { bound with network := bound.network.stripNode node }

/-- The conversion after a source was compiled: the shader is registered and the node converted, if there
is a shader that can be read. -/
def install (conversion : Conversion σ) (terminal input : String) (connection : Connection)
    (compilation : Compilation) : Conversion σ :=
  let conversion := conversion.warn compilation.warnings
  match compilation.shader with
  | none => conversion
  | some shader =>
    -- A shader counts as compiled even if it turns out to be unreadable.
    let conversion :=
      { conversion with summary := { conversion.summary with compiled := conversion.summary.compiled + 1 } }
    match conversion.registry.register shader.path shader.content Dict.empty ShaderEntry.definitionType
        ShaderEntry.shaderType with
    | .error cause => conversion.warn [.notRegistered connection.source cause]
    | .ok (entry, registry) => conversion.convert terminal input connection entry registry

/-- The name of the shader for a node. -/
def shaderNameFor (node : String) : String :=
  NodePath.leaf node ++ "Shader"

/-- The conversion with the source for a node generated, compiled and installed. -/
def compileNode (compile : Compiler σ) (document : Document) (searchPaths : List String)
    (conversion : Conversion σ) (terminal input : String) (connection : Connection) : Conversion σ :=
  let node := connection.source
  match Shader.generate document searchPaths (shaderNameFor node) (NodePath.leaf node)
      (NodePath.parent node) with
  | .error warning => conversion.warn [warning]
  | .ok source =>
    let (compilation, compiler) := compile (shaderNameFor node) source conversion.compiler
    -- A source counts as generated whether or not it is compiled.
    { conversion with
      compiler
      summary := { conversion.summary with generated := conversion.summary.generated + 1 } }.install
        terminal input connection compilation

/-- The conversion with one input of the terminal done. -/
def step (compile : Compiler σ) (document : Document) (searchPaths : List String) (terminal : String)
    (conversion : Conversion σ) (input : String) : Conversion σ :=
  match conversion.network.input? terminal input with
  | none => conversion
  | some connection =>
    if conversion.network.hasNode connection.source then
      -- Nodes met before are compiled already, or have failed to be and are not tried again.
      if conversion.keep.contains connection.source then conversion.revisit terminal input connection
      else
        compileNode compile document searchPaths (conversion.meet connection.source) terminal input
          connection
    else conversion.warn [.unknownNode connection.source]

/-- The conversion with inputs of the terminal done in the order of a list. -/
def run (compile : Compiler σ) (document : Document) (searchPaths : List String) (terminal : String)
    (conversion : Conversion σ) (inputs : List String) : Conversion σ :=
  inputs.foldl (step compile document searchPaths terminal) conversion

/-- The conversion with the nodes deleted that were met on the way and feed nothing any more. -/
def finish (conversion : Conversion σ) (terminal : String) : Conversion σ :=
  let (network, pruned) := conversion.network.prune terminal conversion.candidates conversion.keep
  { conversion with network, summary := { conversion.summary with pruned } }

end Conversion

/-- The conversion of what feeds a terminal, its inputs taken in order. -/
def Network.convertInputs {σ : Type} (compile : Compiler σ) (document : Document) (searchPaths : List String)
    (registry : Registry) (compiler : σ) (network : Network) (terminal : String) : Conversion σ :=
  (Conversion.run compile document searchPaths terminal { network, registry, compiler }
    (network.inputNames terminal)).finish terminal

end ShadeBake

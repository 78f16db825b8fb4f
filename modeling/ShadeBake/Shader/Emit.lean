import ShadeBake.Shader.Order
import ShadeBake.Shader.Program

/-! The shader program that computes a node of a document and all that feeds it. -/

namespace ShadeBake

/-- How programs are emitted: the search paths that they name, and whether images are turned upside down. -/
structure EmitOptions where
  searchPaths : List String := []
  flipImages : Bool := false

namespace Document.Node

/-- The categories whose nodes look up an image. -/
def isImage (node : Node) : Bool :=
  node.category = "image" || node.category = "tiledimage"

/-- The output of a node whose definition declares none. -/
def ownOutput (node : Node) : Plug :=
  { name := defaultOutputName, type := node.type }

/-- The outputs of a node, in the order of declaration. -/
def outputPlugs (node : Node) : List Plug :=
  match node.signature with
  | some signature => if signature.outputs = [] then [node.ownOutput] else signature.outputs
  | none => [node.ownOutput]

/-- The output that is read where none is named: the one with the default name, or else the first. -/
def defaultOutput (node : Node) : Plug :=
  (node.outputPlugs.find? (·.name = defaultOutputName)).getD (node.outputPlugs.headD node.ownOutput)

/-- The variable of an output of a node. -/
def outputVariable (node : Node) (output : String) : Variable :=
  ⟨node.name, output⟩

/-- The function that computes a node: named by its definition, or else by its category and type. -/
def functionName (node : Node) : String :=
  match node.definition with
  | some definition =>
    -- The prefix of definitions is dropped, unless nothing else is there.
    match definition.toList with
    | 'N' :: 'D' :: '_' :: c :: rest => String.ofList (c :: rest)
    | _ => node.category ++ "_" ++ node.type
  | none => node.category ++ "_" ++ node.type

end Document.Node

namespace Shader

open Document (Graph Node Plug Input)

/-- The name of the input that image coordinates come in at. -/
def coordinatesName : String := "texcoord"

/-- The variable that a connected input reads: the named output of the source, which the source must
declare, or its default output. -/
def connected (graph : Graph) (node : Node) (input : Input) (source : String) :
    Except EmitError Argument :=
  match graph.node? source with
  | none => .error (.unknownNode node.name source)
  | some feeding =>
    match input.output with
    -- Where no output is named, the default one is read without further question.
    | none => .ok (.read (feeding.outputVariable feeding.defaultOutput.name))
    | some output =>
      if feeding.outputPlugs.any (·.name = output) then
        .ok (.read (feeding.outputVariable output))
      else .error (.undeclaredOutput node.name input.name output feeding.name)

/-- The shader type of a value type that an input has. -/
def inputType (node : Node) (name type : String) : Except EmitError ShaderType :=
  match ShaderType.ofValueType? type with
  | some known => .ok known
  | none => .error (.unsupportedInput node.name name type)

/-- The constant for the literal of an input; without a type of its own the input has that of the literal.
-/
def literal (node : Node) (name type : String) (value : Literal) : Except EmitError Argument := do
  -- The type must have a shader type before the literal is looked at.
  let known ← inputType node name (if type = "" then value.valueType else type)
  match Constant.ofLiteral? known value with
  | some constant => return .constant constant
  | none => throw (.inexpressible value known)

/-- The type of an input as authored, or else as declared. -/
def typeOf (input : Option Input) (declared : String) : String :=
  match input with
  | some authored => if authored.type = "" then declared else authored.type
  | none => declared

/-- The argument for an input before any turning: what it is connected to, its literal, its declared
default, the surface coordinates for those of an image, or the zero of its type. -/
def plainArgument (graph : Graph) (node : Node) (name declared : String) (default : Option Literal) :
    Except EmitError Argument :=
  let input := node.input? name
  let type := typeOf input declared
  -- A connection wins over a literal that the same input may also hold.
  match input.bind fun authored => authored.node.map (authored, ·) with
  | some (authored, source) => connected graph node authored source
  | none =>
    match (input.bind (·.value)).or default with
    | some value => literal node name type value
    | none =>
      if name = coordinatesName && node.isImage then .ok .coordinates
      else (inputType node name type).map .zero

/-- The argument for an input; the coordinates of an image are turned if the options say so. -/
def argument (options : EmitOptions) (graph : Graph) (node : Node) (name declared : String)
    (default : Option Literal) : Except EmitError Argument := do
  let plain ← plainArgument graph node name declared default
  if name = coordinatesName && node.isImage && options.flipImages then return .flipped plain
  else return plain

/-- The arguments of a node's call: one for each declared input in order. Without a definition the authored
inputs are passed, and an image without coordinates is given some. -/
def arguments (options : EmitOptions) (graph : Graph) (node : Node) :
    Except EmitError (List Argument) :=
  match node.signature with
  | some signature =>
    signature.inputs.mapM fun plug => argument options graph node plug.name plug.type plug.default
  | none => do
    -- The order of authoring is all the order there is.
    let authored ← node.inputs.mapM fun input =>
      argument options graph node input.name input.type none
    if node.isImage && (node.input? coordinatesName).isNone then
      return authored ++ [← argument options graph node coordinatesName "vector2" none]
    else return authored

/-- The declaration of the variable for an output. -/
def declaration (node : Node) (plug : Plug) : Except EmitError Statement :=
  match ShaderType.ofValueType? plug.type with
  | some known => .ok (.declare known (node.outputVariable plug.name))
  | none => .error (.unsupportedOutput node.name plug.name plug.type)

/-- The statements that compute a node: its outputs are declared, then its function is called. -/
def statements (options : EmitOptions) (graph : Graph) (node : Node) :
    Except EmitError (List Statement) := do
  -- A node of unknown definition has no category.
  if node.category = "" then throw (.undefinedNode node.name)
  let passed ← arguments options graph node
  let declarations ← node.outputPlugs.mapM (declaration node)
  let results := node.outputPlugs.map fun plug => node.outputVariable plug.name
  return declarations ++ [.call node.functionName passed results]

/-- The program that computes a root of a graph. -/
def emit (options : EmitOptions) (name : String) (graph : Graph) (root : Node) :
    Except EmitError Program := do
  -- The order is settled first, then the type of the result, then the nodes one by one.
  let order ← graph.evaluationOrder root
  let output := root.defaultOutput
  let some type := ShaderType.ofValueType? output.type
    | throw (.unsupportedResult root.name output.type)
  let computed ← order.mapM (statements options graph)
  return {
    name
    node := root.name
    graph := graph.name
    category := root.category
    searchPaths := options.searchPaths
    type
    body := computed.flatten ++ [.result (root.outputVariable output.name)] }

end Shader

end ShadeBake

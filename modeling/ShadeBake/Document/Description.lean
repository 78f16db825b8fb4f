import ShadeBake.Binary.Reader
import ShadeBake.Definition.Library
import ShadeBake.Document.Basic
import ShadeBake.Network.Basic
import ShadeBake.Registry.Basic
import ShadeBake.Text.Blank

/-! What is known of a node type, from its registered definition or else from the library. -/

namespace ShadeBake

/-- A described node type: its category and value type, the types and defaults of its inputs by name, the
order of its inputs, its outputs, and whether it samples a texture. -/
structure NodeDescription where
  category : String := ""
  type : String := ""
  inputTypes : Dict String := Dict.empty
  inputOrder : List String := []
  inputDefaults : Dict Literal := Dict.empty
  outputs : List Document.Plug := []
  isTexture : Bool := false

namespace Literal

/-- The number of a JSON value in single precision. -/
def single? : Json → Option Binary
  | .number n => some (n.toBinary.convert .single)
  | _ => none

/-- The literal for a JSON value of a value type: a number is an integer where one is asked for, and an
array must hold numbers. -/
def ofJson? (type : String) : Json → Option Literal
  | .string s => some (.string s)
  | .bool b => some (.boolean b)
  | .number n =>
    -- The declared type tells integers, as a number may be written as either.
    if type = "integer" then n.int?.map .integer else some (.float (n.toBinary.convert .single))
  | .array items => (items.mapM single?).map .vector
  | _ => none

/-- The literal for a parameter of a value type; a reference stands for its path. -/
def ofParameter? (type : String) : Parameter → Option Literal
  | .asset reference => some (.string (reference.resolved.getD reference.authored))
  | .plain value => ofJson? type value

/-- The value types whose values are lists of numbers. -/
def isVectorType (type : String) : Bool :=
  type ∈ ["color3", "color4", "vector2", "vector3", "vector4", "float2"]

/-- The literal that a written default of a value type is. -/
def ofText? (type text : String) : Option Literal :=
  let trimmed := Text.trim text.toList
  -- Text is taken as it stands, all else without the blanks around it.
  if type = "string" || type = "filename" then some (.string text)
  else if type = "boolean" then
    if trimmed = "true".toList then some (.boolean true)
    else if trimmed = "false".toList then some (.boolean false)
    else none
  else if type = "integer" then (readInteger? trimmed).map .integer
  else if type = "float" then (Binary.ofText? .single trimmed).map .float
  else if isVectorType type then
    ((Text.splitOn (· = ',') text.toList).mapM fun part =>
      Binary.ofText? .single (Text.trim part)).map .vector
  else none

end Literal

namespace Parameter

/-- The value type of a parameter that none is declared for. -/
def inferredType : Parameter → String
  | .asset _ => "filename"
  | .plain (.string _) => "string"
  | .plain (.bool _) => "boolean"
  | .plain (.number n) => if n.int?.isSome then "integer" else "float"
  | .plain (.array items) =>
    -- Three numbers may be a colour too, and are taken for a vector.
    match items.length with
    | 2 => "vector2"
    | 4 => "vector4"
    | _ => "vector3"
  | .plain _ => ""

end Parameter

namespace NodeDescription

/-- The description that a registered definition gives. -/
def ofEntry (entry : ShaderEntry) : NodeDescription where
  category := entry.family
  type := entry.outputType?.getD ""
  inputTypes := Dict.ofList (entry.inputs.map fun plug => (plug.name, plug.type))
  inputOrder := entry.inputNames
  inputDefaults := Dict.ofList <| entry.inputs.filterMap fun plug => do
    return (plug.name, ← Literal.ofJson? plug.type (← plug.value))
  outputs := entry.outputs.map fun plug => { name := plug.name, type := plug.type }
  isTexture := entry.isTexture

/-- The description that a definition of the library gives. -/
def ofDefinition (definition : Definition) : NodeDescription where
  category := definition.category
  type := definition.type
  inputTypes := Dict.ofList definition.inputs
  inputOrder := definition.inputs.map (·.1)
  -- A default that does not read as one of its type is left out.
  inputDefaults := Dict.ofList <| definition.inputs.filterMap fun (name, type) => do
    return (name, ← Literal.ofText? type (← definition.inputValues.get? name))
  outputs := definition.outputs.map fun (name, type) => { name, type }
  isTexture := false

/-- The description of a node type; an unknown type has one without category. -/
def of (registry : Registry) (library : DefinitionLibrary) (type : String) : NodeDescription :=
  -- The registry comes first, and the files are asked for what it lacks.
  match registry.definition? type with
  | some entry => ofEntry entry
  | none =>
    match library.find? type with
    | some definition => ofDefinition definition
    | none => {}

/-- The declared type of an input, empty for one that is not declared. -/
def inputType (description : NodeDescription) (name : String) : String :=
  (description.inputTypes.get? name).getD ""

/-- The place of an input in the order of declaration; undeclared ones come last. -/
def rank (description : NodeDescription) (name : String) : Nat :=
  description.inputOrder.idxOf name

/-- The node with its inputs in the order of declaration. -/
def sortInputs (description : NodeDescription) (node : Document.Node) : Document.Node :=
  { node with
    inputs := node.inputs.mergeSort fun a b => description.rank a.name ≤ description.rank b.name }

/-- The declared input of a name as a plug. -/
def inputPlug (description : NodeDescription) (name : String) : Document.Plug where
  name := name
  type := description.inputType name
  default := description.inputDefaults.get? name

/-- The declared plugs, if the node type is known. -/
def signature (description : NodeDescription) : Option Document.Signature :=
  if description.category = "" then none
  else some ⟨description.inputOrder.map description.inputPlug, description.outputs⟩

end NodeDescription

/-- The declared plugs of a registered node type. -/
def Registry.signature? (registry : Registry) (type : String) : Option Document.Signature :=
  (NodeDescription.of registry DefinitionLibrary.empty type).signature

end ShadeBake

import ShadeBake.Json.Basic
import ShadeBake.Path

/-! Entries of the shader registry: node types, adapters, closures and compiled shaders. -/

namespace ShadeBake

/-- A plug, which is a declared input or output, with the declared default of an input. -/
structure EntryPlug where
  name : String
  type : String
  value : Option Json

/-- A registered shader. -/
structure ShaderEntry where
  identifier : String
  sourceType : String
  family : String
  role : Option String
  inputs : List EntryPlug
  outputs : List EntryPlug
  metadata : Dict String
  assetPath : Option Path

namespace ShaderEntry

/-- The source type of node definitions. -/
def definitionType : String := "mtlx"

/-- The source type of shaders in source form. -/
def shaderType : String := "OSL"

/-- The source type of the native closures. -/
def closureType : String := "RmanCpp"

/-- The declared input of a name. -/
def input? (entry : ShaderEntry) (name : String) : Option EntryPlug :=
  entry.inputs.find? (·.name = name)

/-- The declared output of a name. -/
def output? (entry : ShaderEntry) (name : String) : Option EntryPlug :=
  entry.outputs.find? (·.name = name)

/-- An entry has an output when it declares it. -/
def hasOutput (entry : ShaderEntry) (name : String) : Bool :=
  (entry.output? name).isSome

/-- The names of the declared inputs, in order. -/
def inputNames (entry : ShaderEntry) : List String :=
  entry.inputs.map (·.name)

/-- The type of the first declared output. -/
def outputType? (entry : ShaderEntry) : Option String :=
  entry.outputs.head?.map (·.type)

/-- An entry samples a texture when its role says so. -/
def isTexture (entry : ShaderEntry) : Bool :=
  entry.role = some "texture"

/-- The variable that a texture node reads its coordinates from, if a name is given. -/
def primvarHint? (entry : ShaderEntry) : Option String :=
  (entry.metadata.get? "primvars").filter (· ≠ "")

end ShaderEntry

end ShadeBake

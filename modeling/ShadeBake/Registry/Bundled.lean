import ShadeBake.Registry.Basic

/-! The registry that every run starts from: node definitions, the adapters of the two supported surfaces
and the native closure. -/

namespace ShadeBake

namespace Registry

/-- A plug without a default. -/
def plug (name type : String) : EntryPlug :=
  ⟨name, type, none⟩

/-- An input whose default is a text. -/
def textInput (name type default : String) : EntryPlug :=
  ⟨name, type, some (.string default)⟩

/-- A decimal of one place, as a JSON number. -/
def tenths (n : Nat) : Json :=
  .number (.real (.ofDecimal .double false n (-1)))

/-- An input whose default is a number, given in tenths. -/
def numberInput (name type : String) (default : Nat) : EntryPlug :=
  ⟨name, type, some (tenths default)⟩

/-- An input whose default is a list of numbers, given in tenths. -/
def vectorInput (name type : String) (default : List Nat) : EntryPlug :=
  ⟨name, type, some (.array (default.map tenths))⟩

/-- The definition of a node type. -/
def definition (identifier family : String) (inputs outputs : List EntryPlug) : ShaderEntry :=
  ⟨identifier, ShaderEntry.definitionType, family, none, inputs, outputs, Dict.empty, none⟩

/-- The definition of a node type that samples a texture at the coordinates `st`. -/
def textureDefinition (identifier family : String) (inputs outputs : List EntryPlug) : ShaderEntry :=
  ⟨identifier, ShaderEntry.definitionType, family, some "texture", inputs, outputs,
    Dict.empty.insert "primvars" "st", none⟩

/-- A shader or closure that nodes are given as a type. -/
def target (identifier sourceType : String) (inputs outputs : List EntryPlug) : ShaderEntry :=
  ⟨identifier, sourceType, "", none, inputs, outputs, Dict.empty, none⟩

/-- The definition of `ND_standard_surface_surfaceshader`. -/
def standardSurfaceSurfaceshader : ShaderEntry :=
  definition "ND_standard_surface_surfaceshader" "standard_surface"
    [plug "base" "float", plug "base_color" "color3", plug "diffuse_roughness" "float",
     plug "metalness" "float", plug "specular" "float", plug "specular_color" "color3",
     plug "specular_roughness" "float", plug "specular_IOR" "float", plug "transmission" "float",
     plug "subsurface" "float", plug "subsurface_color" "color3", plug "coat" "float",
     plug "coat_color" "color3", plug "coat_roughness" "float", plug "emission" "float",
     plug "emission_color" "color3", plug "opacity" "color3", plug "normal" "vector3"]
    [plug "out" "surfaceshader"]

/-- The definition of `ND_UsdPreviewSurface_surfaceshader`. -/
def usdPreviewSurfaceSurfaceshader : ShaderEntry :=
  definition "ND_UsdPreviewSurface_surfaceshader" "UsdPreviewSurface"
    [plug "diffuseColor" "color3", plug "emissiveColor" "color3",
     plug "useSpecularWorkflow" "integer", plug "specularColor" "color3", plug "metallic" "float",
     plug "roughness" "float", plug "clearcoat" "float", plug "clearcoatRoughness" "float",
     plug "opacity" "float", plug "opacityThreshold" "float", plug "ior" "float",
     plug "normal" "vector3", plug "displacement" "float", plug "occlusion" "float"]
    [plug "out" "surfaceshader"]

/-- The definition of `ND_image_float`. -/
def imageFloat : ShaderEntry :=
  textureDefinition "ND_image_float" "image"
    [textInput "file" "filename" "", textInput "layer" "string" "", numberInput "default" "float" 0,
     plug "texcoord" "vector2", textInput "uaddressmode" "string" "periodic",
     textInput "vaddressmode" "string" "periodic", textInput "filtertype" "string" "linear"]
    [plug "out" "float"]

/-- The definition of `ND_image_color3`. -/
def imageColor3 : ShaderEntry :=
  textureDefinition "ND_image_color3" "image"
    [textInput "file" "filename" "", textInput "layer" "string" "",
     vectorInput "default" "color3" [0, 0, 0], plug "texcoord" "vector2",
     textInput "uaddressmode" "string" "periodic", textInput "vaddressmode" "string" "periodic",
     textInput "filtertype" "string" "linear"]
    [plug "out" "color3"]

/-- The definition of `ND_image_color4`. -/
def imageColor4 : ShaderEntry :=
  textureDefinition "ND_image_color4" "image"
    [textInput "file" "filename" "", textInput "layer" "string" "",
     vectorInput "default" "color4" [0, 0, 0, 0], plug "texcoord" "vector2",
     textInput "uaddressmode" "string" "periodic", textInput "vaddressmode" "string" "periodic",
     textInput "filtertype" "string" "linear"]
    [plug "out" "color4"]

/-- The definition of `ND_image_vector2`. -/
def imageVector2 : ShaderEntry :=
  textureDefinition "ND_image_vector2" "image"
    [textInput "file" "filename" "", textInput "layer" "string" "",
     vectorInput "default" "vector2" [0, 0], plug "texcoord" "vector2",
     textInput "uaddressmode" "string" "periodic", textInput "vaddressmode" "string" "periodic",
     textInput "filtertype" "string" "linear"]
    [plug "out" "vector2"]

/-- The definition of `ND_image_vector3`. -/
def imageVector3 : ShaderEntry :=
  textureDefinition "ND_image_vector3" "image"
    [textInput "file" "filename" "", textInput "layer" "string" "",
     vectorInput "default" "vector3" [0, 0, 0], plug "texcoord" "vector2",
     textInput "uaddressmode" "string" "periodic", textInput "vaddressmode" "string" "periodic",
     textInput "filtertype" "string" "linear"]
    [plug "out" "vector3"]

/-- The definition of `ND_image_vector4`. -/
def imageVector4 : ShaderEntry :=
  textureDefinition "ND_image_vector4" "image"
    [textInput "file" "filename" "", textInput "layer" "string" "",
     vectorInput "default" "vector4" [0, 0, 0, 0], plug "texcoord" "vector2",
     textInput "uaddressmode" "string" "periodic", textInput "vaddressmode" "string" "periodic",
     textInput "filtertype" "string" "linear"]
    [plug "out" "vector4"]

/-- The definition of `ND_tiledimage_float`. -/
def tiledimageFloat : ShaderEntry :=
  textureDefinition "ND_tiledimage_float" "tiledimage"
    [textInput "file" "filename" "", numberInput "default" "float" 0, plug "texcoord" "vector2",
     vectorInput "uvtiling" "vector2" [10, 10], vectorInput "uvoffset" "vector2" [0, 0]]
    [plug "out" "float"]

/-- The definition of `ND_tiledimage_color3`. -/
def tiledimageColor3 : ShaderEntry :=
  textureDefinition "ND_tiledimage_color3" "tiledimage"
    [textInput "file" "filename" "", vectorInput "default" "color3" [0, 0, 0],
     plug "texcoord" "vector2", vectorInput "uvtiling" "vector2" [10, 10],
     vectorInput "uvoffset" "vector2" [0, 0]]
    [plug "out" "color3"]

/-- The definition of `ND_tiledimage_vector3`. -/
def tiledimageVector3 : ShaderEntry :=
  textureDefinition "ND_tiledimage_vector3" "tiledimage"
    [textInput "file" "filename" "", vectorInput "default" "vector3" [0, 0, 0],
     plug "texcoord" "vector2", vectorInput "uvtiling" "vector2" [10, 10],
     vectorInput "uvoffset" "vector2" [0, 0]]
    [plug "out" "vector3"]

/-- The definition of `ND_add_float`. -/
def addFloat : ShaderEntry :=
  definition "ND_add_float" "add"
    [numberInput "in1" "float" 0, numberInput "in2" "float" 0]
    [plug "out" "float"]

/-- The definition of `ND_add_color3`. -/
def addColor3 : ShaderEntry :=
  definition "ND_add_color3" "add"
    [vectorInput "in1" "color3" [0, 0, 0], vectorInput "in2" "color3" [0, 0, 0]]
    [plug "out" "color3"]

/-- The definition of `ND_add_vector2`. -/
def addVector2 : ShaderEntry :=
  definition "ND_add_vector2" "add"
    [vectorInput "in1" "vector2" [0, 0], vectorInput "in2" "vector2" [0, 0]]
    [plug "out" "vector2"]

/-- The definition of `ND_add_vector3`. -/
def addVector3 : ShaderEntry :=
  definition "ND_add_vector3" "add"
    [vectorInput "in1" "vector3" [0, 0, 0], vectorInput "in2" "vector3" [0, 0, 0]]
    [plug "out" "vector3"]

/-- The definition of `ND_subtract_float`. -/
def subtractFloat : ShaderEntry :=
  definition "ND_subtract_float" "subtract"
    [numberInput "in1" "float" 0, numberInput "in2" "float" 0]
    [plug "out" "float"]

/-- The definition of `ND_subtract_color3`. -/
def subtractColor3 : ShaderEntry :=
  definition "ND_subtract_color3" "subtract"
    [vectorInput "in1" "color3" [0, 0, 0], vectorInput "in2" "color3" [0, 0, 0]]
    [plug "out" "color3"]

/-- The definition of `ND_subtract_vector2`. -/
def subtractVector2 : ShaderEntry :=
  definition "ND_subtract_vector2" "subtract"
    [vectorInput "in1" "vector2" [0, 0], vectorInput "in2" "vector2" [0, 0]]
    [plug "out" "vector2"]

/-- The definition of `ND_subtract_vector3`. -/
def subtractVector3 : ShaderEntry :=
  definition "ND_subtract_vector3" "subtract"
    [vectorInput "in1" "vector3" [0, 0, 0], vectorInput "in2" "vector3" [0, 0, 0]]
    [plug "out" "vector3"]

/-- The definition of `ND_multiply_float`. -/
def multiplyFloat : ShaderEntry :=
  definition "ND_multiply_float" "multiply"
    [numberInput "in1" "float" 0, numberInput "in2" "float" 10]
    [plug "out" "float"]

/-- The definition of `ND_multiply_color3`. -/
def multiplyColor3 : ShaderEntry :=
  definition "ND_multiply_color3" "multiply"
    [vectorInput "in1" "color3" [0, 0, 0], vectorInput "in2" "color3" [10, 10, 10]]
    [plug "out" "color3"]

/-- The definition of `ND_multiply_vector2`. -/
def multiplyVector2 : ShaderEntry :=
  definition "ND_multiply_vector2" "multiply"
    [vectorInput "in1" "vector2" [0, 0], vectorInput "in2" "vector2" [10, 10]]
    [plug "out" "vector2"]

/-- The definition of `ND_multiply_vector3`. -/
def multiplyVector3 : ShaderEntry :=
  definition "ND_multiply_vector3" "multiply"
    [vectorInput "in1" "vector3" [0, 0, 0], vectorInput "in2" "vector3" [10, 10, 10]]
    [plug "out" "vector3"]

/-- The definition of `ND_divide_float`. -/
def divideFloat : ShaderEntry :=
  definition "ND_divide_float" "divide"
    [numberInput "in1" "float" 0, numberInput "in2" "float" 10]
    [plug "out" "float"]

/-- The definition of `ND_divide_color3`. -/
def divideColor3 : ShaderEntry :=
  definition "ND_divide_color3" "divide"
    [vectorInput "in1" "color3" [0, 0, 0], vectorInput "in2" "color3" [10, 10, 10]]
    [plug "out" "color3"]

/-- The definition of `ND_divide_vector2`. -/
def divideVector2 : ShaderEntry :=
  definition "ND_divide_vector2" "divide"
    [vectorInput "in1" "vector2" [0, 0], vectorInput "in2" "vector2" [10, 10]]
    [plug "out" "vector2"]

/-- The definition of `ND_divide_vector3`. -/
def divideVector3 : ShaderEntry :=
  definition "ND_divide_vector3" "divide"
    [vectorInput "in1" "vector3" [0, 0, 0], vectorInput "in2" "vector3" [10, 10, 10]]
    [plug "out" "vector3"]

/-- The definition of `ND_mix_float`. -/
def mixFloat : ShaderEntry :=
  definition "ND_mix_float" "mix"
    [numberInput "fg" "float" 0, numberInput "bg" "float" 0, numberInput "mix" "float" 0]
    [plug "out" "float"]

/-- The definition of `ND_constant_float`. -/
def constantFloat : ShaderEntry :=
  definition "ND_constant_float" "constant"
    [numberInput "value" "float" 0]
    [plug "out" "float"]

/-- The definition of `ND_mix_color3`. -/
def mixColor3 : ShaderEntry :=
  definition "ND_mix_color3" "mix"
    [vectorInput "fg" "color3" [0, 0, 0], vectorInput "bg" "color3" [0, 0, 0],
     numberInput "mix" "float" 0]
    [plug "out" "color3"]

/-- The definition of `ND_constant_color3`. -/
def constantColor3 : ShaderEntry :=
  definition "ND_constant_color3" "constant"
    [vectorInput "value" "color3" [0, 0, 0]]
    [plug "out" "color3"]

/-- The definition of `ND_mix_vector3`. -/
def mixVector3 : ShaderEntry :=
  definition "ND_mix_vector3" "mix"
    [vectorInput "fg" "vector3" [0, 0, 0], vectorInput "bg" "vector3" [0, 0, 0],
     numberInput "mix" "float" 0]
    [plug "out" "vector3"]

/-- The definition of `ND_constant_vector3`. -/
def constantVector3 : ShaderEntry :=
  definition "ND_constant_vector3" "constant"
    [vectorInput "value" "vector3" [0, 0, 0]]
    [plug "out" "vector3"]

/-- The definition of `ND_geompropvalue_vector2`. -/
def geompropvalueVector2 : ShaderEntry :=
  definition "ND_geompropvalue_vector2" "geompropvalue"
    [textInput "geomprop" "string" "", vectorInput "default" "vector2" [0, 0]]
    [plug "out" "vector2"]

/-- The definition of `ND_remap_vector2`. -/
def remapVector2 : ShaderEntry :=
  definition "ND_remap_vector2" "remap"
    [vectorInput "in" "vector2" [0, 0], vectorInput "inlow" "vector2" [0, 0],
     vectorInput "inhigh" "vector2" [10, 10], vectorInput "outlow" "vector2" [0, 0],
     vectorInput "outhigh" "vector2" [10, 10]]
    [plug "out" "vector2"]

/-- The definition of `ND_normalmap`. -/
def normalmap : ShaderEntry :=
  definition "ND_normalmap" "normalmap"
    [vectorInput "in" "vector3" [5, 5, 10], numberInput "scale" "float" 10]
    [plug "out" "vector3"]

/-- The adapter shader `StandardSurfaceParameters`. -/
def standardSurfaceParameters : ShaderEntry :=
  target "StandardSurfaceParameters" ShaderEntry.shaderType
    [plug "base" "float", plug "base_color" "color3", plug "diffuse_roughness" "float",
     plug "metalness" "float", plug "specular" "float", plug "specular_color" "color3",
     plug "specular_roughness" "float", plug "specular_IOR" "float", plug "transmission" "float",
     plug "subsurface_value" "float", plug "subsurface_color" "color3", plug "coat" "float",
     plug "coat_color" "color3", plug "coat_roughness" "float", plug "emission_value" "float",
     plug "emission_color" "color3", plug "opacity" "color3", plug "input_normal" "vector3"]
    [plug "diffuseGainOut" "float", plug "diffuseColorOut" "color",
     plug "diffuseRoughnessOut" "float", plug "specularFaceColorOut" "color",
     plug "specularEdgeColorOut" "color", plug "specularRoughnessOut" "float",
     plug "specularIorOut" "float", plug "clearcoatFaceColorOut" "color",
     plug "clearcoatEdgeColorOut" "color", plug "clearcoatRoughnessOut" "float",
     plug "subsurfaceGainOut" "float", plug "subsurfaceColorOut" "color",
     plug "glowGainOut" "float", plug "glowColorOut" "color", plug "refractionGainOut" "float",
     plug "glassIorOut" "float", plug "bumpNormalOut" "normal", plug "presenceOut" "float"]

/-- The adapter shader `UsdPreviewSurfaceParameters`. -/
def usdPreviewSurfaceParameters : ShaderEntry :=
  target "UsdPreviewSurfaceParameters" ShaderEntry.shaderType
    [plug "diffuseColor" "color3", plug "emissiveColor" "color3",
     plug "useSpecularWorkflow" "integer", plug "specularColor" "color3", plug "metallic" "float",
     plug "roughness" "float", plug "clearcoat" "float", plug "clearcoatRoughness" "float",
     plug "opacity" "float", plug "opacityThreshold" "float", plug "ior" "float",
     plug "normal" "vector3", plug "displacement" "float", plug "occlusion" "float"]
    [plug "diffuseGainOut" "float", plug "diffuseColorOut" "color",
     plug "specularFaceColorOut" "color", plug "specularEdgeColorOut" "color",
     plug "specularRoughnessOut" "float", plug "specularIorOut" "float",
     plug "clearcoatFaceColorOut" "color", plug "clearcoatEdgeColorOut" "color",
     plug "clearcoatRoughnessOut" "float", plug "glowGainOut" "float", plug "glowColorOut" "color",
     plug "glassIorOut" "float", plug "bumpNormalOut" "normal", plug "presenceOut" "float"]

/-- The native closure `PxrSurface`. -/
def pxrSurface : ShaderEntry :=
  target "PxrSurface" ShaderEntry.closureType
    [plug "diffuseGain" "float", plug "diffuseColor" "color", plug "diffuseRoughness" "float",
     plug "specularFaceColor" "color", plug "specularEdgeColor" "color",
     plug "specularRoughness" "float", plug "specularIor" "float",
     plug "clearcoatFaceColor" "color", plug "clearcoatEdgeColor" "color",
     plug "clearcoatRoughness" "float", plug "subsurfaceGain" "float",
     plug "subsurfaceColor" "color", plug "glowGain" "float", plug "glowColor" "color",
     plug "refractionGain" "float", plug "glassIor" "float", plug "bumpNormal" "normal",
     plug "presence" "float", plug "singlescatterGain" "float"]
    [plug "bxdf_out" "bxdf"]

/-- All bundled entries, in the order in which they are registered. -/
def bundledEntries : List ShaderEntry :=
  [standardSurfaceSurfaceshader, usdPreviewSurfaceSurfaceshader, imageFloat, imageColor3,
   imageColor4, imageVector2, imageVector3, imageVector4, tiledimageFloat, tiledimageColor3,
   tiledimageVector3, addFloat, addColor3, addVector2, addVector3, subtractFloat, subtractColor3,
   subtractVector2, subtractVector3, multiplyFloat, multiplyColor3, multiplyVector2,
   multiplyVector3, divideFloat, divideColor3, divideVector2, divideVector3, mixFloat,
   constantFloat, mixColor3, constantColor3, mixVector3, constantVector3, geompropvalueVector2,
   remapVector2, normalmap, standardSurfaceParameters, usdPreviewSurfaceParameters, pxrSurface]

/-- The registry of the bundled entries. -/
def bundled : Registry :=
  empty.insertAll bundledEntries

end Registry

end ShadeBake

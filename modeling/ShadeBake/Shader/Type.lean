/-! The types of shader values, and the value types of nodes that they stand for. -/

namespace ShadeBake

/-- A type of the shading language. -/
inductive ShaderType where
  | float
  | int
  | color
  | color4
  | vector2
  | vector
  | vector4
  | matrix
  | string
  deriving DecidableEq, Repr

namespace ShaderType

/-- The name of a type. -/
def name : ShaderType → String
  | float => "float"
  | int => "int"
  | color => "color"
  | color4 => "color4"
  | vector2 => "vector2"
  | vector => "vector"
  | vector4 => "vector4"
  | matrix => "matrix"
  | string => "string"

/-- The expression for the zero of a type. -/
def zero : ShaderType → String
  | float => "0.0"
  | int => "0"
  | color => "color(0.0)"
  | color4 => "color4(color(0.0), 0.0)"
  | vector2 => "vector2(0.0, 0.0)"
  | vector => "vector(0.0)"
  | vector4 => "vector4(0.0, 0.0, 0.0, 0.0)"
  | matrix => "matrix(1.0)"
  | string => "\"\""

/-- The type that stands for the value type of a node, if there is one. -/
def ofValueType? (type : String) : Option ShaderType :=
  match type with
  | "float" => some float
  -- The language has no booleans.
  | "integer" | "boolean" => some int
  | "color3" => some color
  | "color4" => some color4
  | "vector2" | "float2" => some vector2
  | "vector3" => some vector
  | "vector4" => some vector4
  | "matrix33" | "matrix44" => some matrix
  | "string" | "filename" => some string
  | _ => none

end ShaderType

end ShadeBake

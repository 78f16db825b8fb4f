/-! How a texture continues past its edges. -/

namespace ShadeBake

/-- The ways in which the texture plugin continues a texture. -/
inductive WrapMode where
  | black
  | clamp
  | periodic
  deriving DecidableEq, Repr

namespace WrapMode

/-- The plugin's name for a mode. -/
def name : WrapMode → String
  | black => "black"
  | clamp => "clamp"
  | periodic => "repeat"

/-- The mode that the plugin has for an address mode; any other repeats the texture. -/
def ofAddressMode : String → WrapMode
  | "constant" => black
  | "clamp" => clamp
  | _ => periodic

/-- The address modes that the plugin only approximates. -/
def isApproximated (mode : String) : Bool :=
  mode = "constant" || mode = "mirror"

end WrapMode

end ShadeBake

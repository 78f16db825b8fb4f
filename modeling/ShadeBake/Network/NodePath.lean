/-! Structural names of nodes: their last component, the one above it, and names derived from them. -/

namespace ShadeBake

namespace NodePath

/-- The characters after the last slash of a text. -/
def lastPiece (text : List Char) : List Char :=
  (text.reverse.takeWhile (· ≠ '/')).reverse

/-- The characters before the last slash of a text, if it has one. -/
def beforeLastSlash? (text : List Char) : Option (List Char) :=
  match text.reverse.dropWhile (· ≠ '/') with
  | [] => none
  | _ :: rest => some rest.reverse

/-- The text without the slashes at its end. -/
def trimSlashes (text : List Char) : List Char :=
  (text.reverse.dropWhile (· = '/')).reverse

/-- The last component of a node's name, all of a name without slashes. -/
def leaf (path : String) : String :=
  String.ofList (lastPiece path.toList)

/-- The component above the last one; empty when there is none. -/
def parent (path : String) : String :=
  -- Slashes at the end separate nothing here, though they do for the last component.
  match beforeLastSlash? (trimSlashes path.toList) with
  | some above => String.ofList (lastPiece above)
  | none => ""

/-- The name of the material at a path; a path that ends in a slash gives a name of its own. -/
def materialName (materialPath : String) : String :=
  if leaf materialPath = "" then "Material" else leaf materialPath

/-- The name of the surface shader of a material. -/
def shaderName (material : String) : String :=
  "SR_" ++ material

end NodePath

end ShadeBake

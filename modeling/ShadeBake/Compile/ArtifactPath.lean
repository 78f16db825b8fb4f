import ShadeBake.FileTree

/-! Paths of compiled shaders, each unlike all others. -/

namespace ShadeBake

namespace ArtifactPath

/-- A number as a given count of hexadecimal digits, the lowest ones. -/
def hexDigits (count n : Nat) : List Char :=
  ((List.range count).map fun place => Nat.digitChar (n / Nat.pow 16 (count - 1 - place) % 16))

/-- The identifier with a serial number: hexadecimal groups of which the third and fourth begin with
marks. -/
def identifier (serial : Nat) : String :=
  let group (count shift : Nat) := hexDigits count (serial / Nat.pow 16 shift)
  String.ofList <|
    group 8 22 ++ '-' :: group 4 18 ++ '-' :: '4' :: group 3 15 ++ '-' :: '8' :: group 3 12
      ++ '-' :: group 12 0

/-- The path in a directory for what a shader of a name becomes. -/
def make (directory : Path) (name extension : String) (serial : Nat) : Path :=
  Path.join directory s!"MX.{name}.{identifier serial}.{extension}"

end ArtifactPath

end ShadeBake

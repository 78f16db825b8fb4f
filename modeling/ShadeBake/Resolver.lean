import ShadeBake.Path
import ShadeBake.Text.Search

/-! Resolving authored references to file paths. -/

namespace ShadeBake

/-- How references become paths, and what extension a path counts as having. -/
structure Resolver where
  resolve : String → Path
  extension : Path → String

namespace Resolver

/-- The extension of a path in lower case, empty when there is none. -/
def lowerExtension (path : Path) : String :=
  ((Path.extension? path).getD "").toLower

/-- A reference that no directory is put in front of: an empty one, a locator or an absolute path. -/
def isAnchored (reference : String) : Bool :=
  reference = "" || Text.containsPiece "://".toList reference.toList || Path.isAbsolute reference

/-- The resolver that puts a directory, if there is one, in front of relative paths. -/
def below (root : Option Path) : Resolver where
  resolve reference :=
    match root with
    -- Only what is relative to nothing else is put below the directory.
    | some directory => if isAnchored reference then reference else Path.join directory reference
    | none => reference
  extension := lowerExtension

end Resolver

end ShadeBake

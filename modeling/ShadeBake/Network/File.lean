import ShadeBake.FileTree
import ShadeBake.Network.Form

/-! Networks in files. -/

namespace ShadeBake

/-- Why a network cannot be loaded from a file. -/
inductive NetworkFileError where
  | unreadable (path : Path)
  | malformed
  deriving DecidableEq, Repr

namespace NetworkFileError

/-- The words for an error. -/
def message : NetworkFileError → String
  | unreadable path => s!"failed to read material network json at {path}"
  | malformed => "failed to parse material network json"

end NetworkFileError

namespace Network

/-- The network in the file at a path. -/
def load (files : FileSystem) (path : Path) : Except NetworkFileError Network :=
  match files.read path with
  | .error _ => .error (.unreadable path)
  | .ok text =>
    match ofText? text with
    | some network => .ok network
    | none => .error .malformed

end Network

end ShadeBake

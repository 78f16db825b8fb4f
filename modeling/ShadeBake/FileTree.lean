import ShadeBake.Path

/-! Files in directories, as a value: what reading, listing and writing a path gives. -/

namespace ShadeBake

/-- A file or a directory. A file whose bytes are no UTF-8 has no text. A directory lists its entries in an
order of its own. -/
inductive FileTree where
  | file (text : Option String)
  | directory (entries : List (String × FileTree))
  deriving Inhabited

/-- Why a file cannot be read. -/
inductive ReadFailure where
  | missing
  | directory
  | throughFile
  | nameTooLong
  | holdsNul
  | notText
  deriving DecidableEq, Repr

namespace ReadFailure

/-- The words for a failure. -/
def message : ReadFailure → String
  | missing => "No such file or directory (os error 2)"
  | directory => "Is a directory (os error 21)"
  | throughFile => "Not a directory (os error 20)"
  | nameTooLong => "File name too long (os error 36)"
  | holdsNul => "file name contained an unexpected NUL byte"
  | notText => "stream did not contain valid UTF-8"

end ReadFailure

namespace FileTree

/-- The entry of a directory under a name. -/
def child? (tree : FileTree) (name : String) : Option FileTree :=
  match tree with
  | .file _ => none
  | .directory entries => (entries.find? (·.1 = name)).map (·.2)

/-- What lies under a list of names. -/
def descend? (tree : FileTree) : List String → Option FileTree
  | [] => some tree
  | name :: names => (tree.child? name).bind (descend? · names)

/-- Entries with one of them replaced, or a new one listed last. -/
def setEntry (name : String) (tree : FileTree) : List (String × FileTree) → List (String × FileTree)
  | [] => [(name, tree)]
  | entry :: rest =>
    if entry.1 = name then (name, tree) :: rest else entry :: setEntry name tree rest

/-- The tree with another one put under a list of names; directories on the way are made. -/
def put (new : FileTree) : List String → FileTree → FileTree
  | [], _ => new
  | name :: names, tree =>
    -- A file that is in the way is replaced by a directory.
    let entries :=
      match tree with
      | .directory entries => entries
      | .file _ => []
    let below := ((FileTree.directory entries).child? name).getD (.directory [])
    .directory (setEntry name (put new names below) entries)

/-- The tree without what lies under a list of names. -/
def remove : List String → FileTree → FileTree
  | [], tree => tree
  | _ :: _, .file text => .file text
  | [name], .directory entries => .directory (entries.filter (·.1 ≠ name))
  | name :: names, .directory entries =>
    .directory (entries.map fun entry =>
      if entry.1 = name then (entry.1, remove names entry.2) else entry)

end FileTree

/-- A tree of files together with the directory that relative paths start from. -/
structure FileSystem where
  root : FileTree
  workingDirectory : List String
  deriving Inhabited

namespace FileSystem

/-- The longest name of a file, in bytes. -/
def nameLimit : Nat := 255

/-- A path that files are looked for at has fewer bytes. -/
def pathLimit : Nat := 4096

/-- Why no file is looked for at a path, if that is so. -/
def refusal? (path : Path) : Option ReadFailure :=
  if path.toList.contains '\x00' then some .holdsNul
  else if pathLimit ≤ path.utf8ByteSize then some .nameTooLong
  else none

/-- One step along a path from a place, given by the names down to it in reverse. -/
def step (files : FileSystem) (place : List String) : Path.Component → Except ReadFailure (List String)
  | .root => .ok []
  | .current => .ok place
  | .parent =>
    match files.root.descend? place.reverse with
    -- The root is its own parent.
    | some (.directory _) => .ok (place.drop 1)
    | some (.file _) => .error .throughFile
    | none => .error .missing
  | .name text =>
    match files.root.descend? place.reverse with
    | some (.directory entries) =>
      if nameLimit < text.utf8ByteSize then .error .nameTooLong
      else if entries.any (·.1 = text) then .ok (text :: place)
      else .error .missing
    | some (.file _) => .error .throughFile
    | none => .error .missing

/-- The names down to what a path leads to, in reverse. -/
def locate (files : FileSystem) (path : Path) : Except ReadFailure (List String) :=
  match refusal? path, Path.components path with
  | some failure, _ => .error failure
  | none, [] => .error .missing
  | none, components => components.foldlM files.step files.workingDirectory.reverse

/-- A path that ends in a slash or in a dot of its own can only lead to a directory. -/
def namesDirectory (path : Path) : Bool :=
  match (Path.pieces path).getLast? with
  | some last => (Path.componentOf last).isNone
  | none => false

/-- What a path leads to. -/
def lookup (files : FileSystem) (path : Path) : Except ReadFailure FileTree := do
  let place ← files.locate path
  -- A slash at the end asks for a directory, which a file is not.
  match files.root.descend? place.reverse with
  | none => throw .missing
  | some (.file text) => if namesDirectory path then throw .throughFile else return .file text
  | some tree => return tree

/-- The text of the file that a path leads to. -/
def read (files : FileSystem) (path : Path) : Except ReadFailure String := do
  match ← files.lookup path with
  | .file (some text) => return text
  | .file none => throw .notText
  | .directory _ => throw .directory

/-- A path leads to a directory. -/
def isDirectory (files : FileSystem) (path : Path) : Bool :=
  match files.lookup path with
  | .ok (.directory _) => true
  | _ => false

/-- The names down to the file that a path would create or overwrite, if it can. -/
def target? (files : FileSystem) (path : Path) : Option (List String) := do
  let name ← Path.fileName? path
  -- The path and its last name must fit, the directory must be there, and none may be in the way.
  let place ← ((Path.components path).dropLast.foldlM files.step files.workingDirectory.reverse).toOption
  let .directory entries ← files.root.descend? place.reverse | none
  if (refusal? path).isSome || nameLimit < name.utf8ByteSize || namesDirectory path then none
  else
    match entries.find? (·.1 = name) with
    | some (_, .directory _) => none
    | _ => some (place.reverse ++ [name])

/-- The files after a text is written to a path, if that is possible. -/
def write? (files : FileSystem) (path : Path) (text : String) : Option FileSystem :=
  (files.target? path).map fun names =>
    { files with root := FileTree.put (.file (some text)) names files.root }

/-- The files without the file that a path leads to. -/
def delete (files : FileSystem) (path : Path) : FileSystem :=
  match files.locate path with
  | .ok place => { files with root := FileTree.remove place.reverse files.root }
  | .error _ => files

/-- The names that the directory at a path lists. -/
def list (files : FileSystem) (path : Path) : List String :=
  match files.lookup path with
  | .ok (.directory entries) => entries.map (·.1)
  | _ => []

end FileSystem

end ShadeBake

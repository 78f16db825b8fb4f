import ShadeBake.Text.Blank

/-! File paths as text: joining them, and reading off their components. -/

namespace ShadeBake

/-- A path is its text, with `/` between the names. -/
abbrev Path := String

namespace Path

/-- A part of a path that is not skipped. -/
inductive Component where
  | root
  | current
  | parent
  | name (text : String)
  deriving DecidableEq, Repr

/-- The texts between the slashes of a path. -/
def pieces (path : Path) : List (List Char) :=
  Text.splitOn (· = '/') path.toList

/-- A path is absolute when it begins with a slash. -/
def isAbsolute (path : Path) : Bool :=
  path.toList.head? = some '/'

/-- A relative path after a directory, an absolute one alone. -/
def join (directory path : Path) : Path :=
  if isAbsolute path then path
  -- An empty directory and one that ends in a slash need no slash in between.
  else if directory.toList.getLast?.all (· = '/') then directory ++ path
  else directory ++ "/" ++ path

/-- A path that goes on from a directory at one name after another. -/
def joinAll (directory : Path) (names : List String) : Path :=
  names.foldl join directory

/-- The component that a piece after the first makes; empty pieces and single dots make none. -/
def componentOf (piece : List Char) : Option Component :=
  -- Empty pieces and single dots lead nowhere else.
  match piece with
  | [] => none
  | ['.'] => none
  | ['.', '.'] => some .parent
  | _ => some (.name (String.ofList piece))

/-- The component that the first piece makes: a leading slash is the root, and a leading dot counts. -/
def firstComponent (path : Path) (piece : List Char) : Option Component :=
  match piece with
  | [] => if isAbsolute path then some .root else none
  | ['.'] => some .current
  | _ => componentOf piece

/-- The components of a path. -/
def components (path : Path) : List Component :=
  match pieces path with
  | [] => []
  | first :: rest => (firstComponent path first).toList ++ rest.filterMap componentOf

/-- The last name of a path, if the path ends in a name. -/
def fileName? (path : Path) : Option String :=
  match (components path).getLast? with
  | some (.name text) => some text
  | _ => none

/-- A name cut at its last dot: what is before it, and what is after it unless that dot begins the name. -/
def cutExtension (name : String) : String × Option String :=
  let tail := (name.toList.reverse.takeWhile (· ≠ '.')).reverse
  -- In reverse the last dot comes first, and something must be left in front of it.
  match name.toList.reverse.dropWhile (· ≠ '.') with
  | _ :: c :: stem => (String.ofList (c :: stem).reverse, some (String.ofList tail))
  | _ => (name, none)

/-- The extension of the last name, without its dot. -/
def extension? (path : Path) : Option String :=
  (fileName? path).bind fun name => (cutExtension name).2

/-- The last name without its extension. -/
def stem? (path : Path) : Option String :=
  (fileName? path).map fun name => (cutExtension name).1

/-- Pieces in reverse, from the last that makes a component on; the first piece of a path always stays. -/
def trimPieces : List (List Char) → List (List Char)
  | [] => []
  | [first] => [first]
  | piece :: rest => if (componentOf piece).isSome then piece :: rest else trimPieces rest

/-- The text of pieces in reverse; an empty first piece alone is the root. -/
def ofPieces (reversed : List (List Char)) : Path :=
  if reversed = [[]] then "/"
  else "/".intercalate (reversed.reverse.map String.ofList)

/-- The path of the directory that a path lies in, if the path has a component besides the root. -/
def parent? (path : Path) : Option Path :=
  match trimPieces (pieces path).reverse with
  | [] => none
  -- One empty piece is the root or nothing, any other is a name in no directory.
  | [only] => if only = [] then none else some ""
  | _ :: rest => some (ofPieces (trimPieces rest))

/-- The path with the extension of its last name replaced. -/
def withExtension (path : Path) (extension : String) : Path :=
  match fileName? path, trimPieces (pieces path).reverse with
  | some name, _ :: rest => ofPieces (((cutExtension name).1 ++ "." ++ extension).toList :: rest)
  | _, _ => path

end Path

end ShadeBake

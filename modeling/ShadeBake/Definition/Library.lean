import ShadeBake.Definition.Basic
import ShadeBake.FileTree

/-! Libraries of node definitions, read from the definition files below search paths. -/

namespace ShadeBake

/-- The extension of definition files, in any case. -/
def definitionExtension : String := "mtlx"

namespace FileTree

/-- A directory that is still to be listed: the names that lead to it, and its entries. -/
abbrev Pending := List String × List (String × FileTree)

/-- The entries of a tree that is met at a path. A file has none, and neither has a directory at whose path no file is
looked for: it cannot be told from a file. -/
def openedAt? (path : Path) (tree : FileTree) : Option (List (String × FileTree)) :=
  match tree with
  | .file _ => none
  | .directory entries => if (FileSystem.refusal? path).isNone then some entries else none

/-- The names that lead to the files among the entries of a directory below a path. -/
def filesAmong (path : Path) (above : List String) : List (String × FileTree) → List (List String)
  | [] => []
  | (name, tree) :: rest =>
    match openedAt? (path.joinAll (above ++ [name])) tree with
    | none => (above ++ [name]) :: filesAmong path above rest
    | some _ => filesAmong path above rest

/-- The directories among the entries of a directory below a path. -/
def directoriesAmong (path : Path) (above : List String) : List (String × FileTree) → List Pending
  | [] => []
  | (name, tree) :: rest =>
    match openedAt? (path.joinAll (above ++ [name])) tree with
    | none => directoriesAmong path above rest
    | some entries => (above ++ [name], entries) :: directoriesAmong path above rest

/-- A file is a definition file when the extension of its name says so. -/
def isDefinitionFile (names : List String) : Bool :=
  match names.getLast? with
  | some name => (Path.cutExtension name).2.any fun extension =>
      extension.toLower = definitionExtension
  | none => false

mutual

/-- The number of directories in a tree, the tree itself included. -/
def directoryCount : FileTree → Nat
  | .file _ => 0
  | .directory entries => directoryCountOf entries + 1

/-- The number of directories in the entries of a directory. -/
def directoryCountOf : List (String × FileTree) → Nat
  | [] => 0
  | (_, tree) :: rest => directoryCount tree + directoryCountOf rest

end

/-- The number of directories that are still to be listed once those of a stack are. -/
def pendingCount : List Pending → Nat
  | [] => 0
  | pending :: rest => directoryCountOf pending.2 + 1 + pendingCount rest

/-- Two stacks hold together the directories of each. -/
theorem pendingCount_append (stack rest : List Pending) :
    pendingCount (stack ++ rest) = pendingCount stack + pendingCount rest := by
  -- The count is a sum over the stack, so the sums of the two parts add up.
  induction stack with
  | nil => simp [pendingCount]
  | cons pending others ih =>
    rw [List.cons_append, pendingCount, pendingCount, ih]
    omega

/-- A stack holds the same directories the other way round. -/
theorem pendingCount_reverse (stack : List Pending) : pendingCount stack.reverse = pendingCount stack := by
  -- A sum does not depend on the order in which the stack is gone through.
  induction stack with
  | nil => rfl
  | cons pending others ih =>
    rw [List.reverse_cons, pendingCount_append, ih, pendingCount, pendingCount, pendingCount]
    omega

/-- A directory that can be opened has as many directories as its entries have, and itself. -/
theorem directoryCount_of_openedAt? {path : Path} {tree : FileTree} {entries : List (String × FileTree)}
    (opened : openedAt? path tree = some entries) : directoryCount tree = directoryCountOf entries + 1 := by
  -- Only a directory whose path is accepted opens, and it counts once on top of its entries.
  unfold openedAt? at opened
  split at opened
  · cases opened
  · split at opened
    · cases opened
      rfl
    · cases opened

/-- The directories that the entries of a directory lead to are among the entries or further down. -/
theorem pendingCount_directoriesAmong_le (path : Path) (above : List String) (entries : List (String × FileTree)) :
    pendingCount (directoriesAmong path above entries) ≤ directoryCountOf entries := by
  -- A directory that cannot be opened is counted on the right only, with all that is below it.
  induction entries with
  | nil => exact Nat.le_refl _
  | cons entry rest ih =>
    obtain ⟨name, tree⟩ := entry
    rw [directoriesAmong, directoryCountOf]
    split
    · omega
    · rename_i opened
      rw [pendingCount, directoryCount_of_openedAt? opened]
      dsimp only
      omega

/-- The definition files found so far, and then those below the directories of a stack: the one on top is listed,
and the directories in it go on top of the others. -/
def collect (path : Path) (found : List (List String)) (stack : List Pending) : List (List String) :=
  match stack with
  | [] => found
  | (above, entries) :: rest =>
    -- The directories are put on the stack, so what was listed last is gone through first.
    collect path (found ++ (filesAmong path above entries).filter isDefinitionFile)
      ((directoriesAmong path above entries).reverse ++ rest)
termination_by pendingCount stack
decreasing_by
  -- Each turn lists one directory.
  have fewer := pendingCount_directoriesAmong_le path above entries
  rw [pendingCount_append, pendingCount_reverse, pendingCount]
  dsimp only
  omega

/-- The order of paths, name by name: a path comes before those that lead on from it. -/
def comesBefore : List String → List String → Bool
  | [], _ => true
  | _ :: _, [] => false
  | a :: above, b :: below =>
    -- The first names that differ decide, whatever follows them.
    if a = b then comesBefore above below else decide (a < b)

/-- The names that lead to the definition files below a tree that a path leads to, in the order of paths; a tree that
is a file has none. -/
def definitionFiles (path : Path) (tree : FileTree) : List (List String) :=
  match tree with
  | .file _ => []
  | .directory entries => (collect path [] [([], entries)]).mergeSort comesBefore

end FileTree

/-- The paths of the definition files below a path, in order. -/
def FileSystem.definitionFiles (files : FileSystem) (path : Path) : List Path :=
  match files.lookup path with
  | .ok tree => (tree.definitionFiles path).map path.joinAll
  -- A path that leads nowhere has nothing below it.
  | .error _ => []

/-- The definitions of a library by name, and the search paths that they were read from. -/
structure DefinitionLibrary where
  searchPaths : List Path
  definitions : Dict Definition
  deriving DecidableEq

namespace DefinitionLibrary

/-- The library that has read nothing. -/
def empty : DefinitionLibrary := ⟨[], Dict.empty⟩

instance : Inhabited DefinitionLibrary := ⟨empty⟩

/-- The definitions in a file, in order. A file that cannot be read has none. -/
def definitionsIn (files : FileSystem) (file : Path) : List Definition :=
  match files.read file with
  | .ok text => Definition.ofText text.toList
  | .error _ => []

/-- The library of all definitions below search paths; of definitions with one name the first counts. -/
def load (files : FileSystem) (searchPaths : List Path) : DefinitionLibrary where
  searchPaths := searchPaths
  definitions := Dict.ofListFirst <|
    ((searchPaths.flatMap files.definitionFiles).flatMap (definitionsIn files)).map fun definition =>
      (definition.name, definition)

/-- The definition of a name. -/
def find? (library : DefinitionLibrary) (name : String) : Option Definition :=
  library.definitions.get? name

end DefinitionLibrary

end ShadeBake

import ShadeBake.Dict.Lemmas
import ShadeBake.Proofs.Definition.Declaration
import ShadeBake.Proofs.Definition.Listing

/-! A library does not depend on the order in which directories list their entries: of the definitions with one name it
holds the first in the order of search paths, files and positions in a file. -/

namespace ShadeBake

namespace FileSystem

variable {files other : FileSystem}

/-- A path that leads somewhere is not refused. -/
theorem refusal?_of_lookup {path : Path} {tree : FileTree} (leads : files.lookup path = .ok tree) :
    refusal? path = none := by
  -- What is looked up has been located, and a refused path is not.
  obtain ⟨place, located, _⟩ := exists_descend?_of_lookup leads
  exact (locate_eq_ok_iff.1 located).1

/-- The definition files below a path are the same when the files are listed again. -/
theorem Relists.definitionFiles (relists : files.Relists other) (wellFormed : files.root.WellFormed) (path : Path) :
    other.definitionFiles path = files.definitionFiles path := by
  -- The path leads to one tree, listed in two ways, or nowhere for both.
  unfold FileSystem.definitionFiles
  rcases relists.lookup wellFormed path with ⟨tree, tree', leads, leads', again⟩ | ⟨cause, fails, fails'⟩
  · rw [leads, leads']
    dsimp only
    rw [again.definitionFiles (wellFormed_of_lookup wellFormed leads) (refusal?_of_lookup leads)]
  · rw [fails, fails']

/-- The definition files below a path that leads to a tree are all entries with the extension at any depth that are no
directories and lie in one, each once and in the order of their names. A directory is one whose path is accepted: where
all are, these are the files with the extension. Each reads as its own text, if it has one and its path is accepted. -/
structure ListsDefinitionFiles (files : FileSystem) (path : Path) (tree : FileTree) (listed : List (List String)) :
    Prop where
  paths : files.definitionFiles path = listed.map path.joinAll
  ordered : listed.Pairwise (List.Lex (· < ·))
  complete : ∀ names, names ∈ listed ↔
    FileTree.HasDefinitionExtension names ∧ (∃ below, tree.descend? names = some below) ∧
      files.isDirectory (path.joinAll names.dropLast) = true ∧ files.isDirectory (path.joinAll names) = false
  directories : ∀ names below, tree.descend? names = some below →
    (files.isDirectory (path.joinAll names) = true ↔
      refusal? (path.joinAll names) = none ∧ ∃ entries, below = .directory entries)
  whole : (∀ names entries, tree.descend? names = some (.directory entries) → refusal? (path.joinAll names) = none) →
    ∀ names, names ∈ listed ↔
      FileTree.HasDefinitionExtension names ∧ ∃ text, tree.descend? names = some (.file text)
  readable : ∀ names ∈ listed, ∀ content,
    files.read (path.joinAll names) = .ok content ↔
      refusal? (path.joinAll names) = none ∧ tree.descend? names = some (.file (some content))

/-- Names that lead somewhere lead through directories. -/
theorem exists_directory_of_descend? {tree below : FileTree} {names : List String} (nonempty : names ≠ [])
    (leads : tree.descend? names = some below) :
    ∃ entries, tree.descend? names.dropLast = some (.directory entries) := by
  rw [← List.dropLast_append_getLast nonempty, FileTree.descend?_append] at leads
  obtain ⟨above, before, last⟩ := Option.bind_eq_some_iff.1 leads
  -- A file holds nothing under the last name.
  cases above with
  | file text => cases last
  | directory entries => exact ⟨entries, before⟩

/-- Names with the extension are met from a tree on exactly if they lead from a directory to something else. -/
theorem met_iff_isDirectory (wellFormed : files.root.WellFormed) {path : Path} {tree : FileTree}
    (leads : files.lookup path = .ok tree) {names : List String} (nonempty : names ≠ []) :
    FileTree.Met path [] tree names ↔ (∃ below, tree.descend? names = some below) ∧
      files.isDirectory (path.joinAll names.dropLast) = true ∧ files.isDirectory (path.joinAll names) = false := by
  -- The entry's own directory is one to the system exactly if its path is accepted.
  constructor
  · intro met
    obtain ⟨below, under, unopened⟩ := met.ends
    obtain ⟨entries, above⟩ := exists_directory_of_descend? nonempty under
    refine ⟨⟨below, under⟩, ?_, ?_⟩
    · exact (isDirectory_joinAll wellFormed leads above).2 ⟨met.opened nonempty, entries, rfl⟩
    · rw [Bool.eq_false_iff, Ne, isDirectory_joinAll wellFormed leads under]
      intro opened
      obtain ⟨accepted, entries, rfl⟩ := opened
      -- A directory whose path is accepted is opened, and so it is not met.
      have none := unopened.symm.trans (FileTree.openedAt?_eq_some_iff.2 ⟨rfl, accepted⟩)
      cases none
  · intro somewhere
    obtain ⟨⟨below, under⟩, above, plain⟩ := somewhere
    obtain ⟨entries, before⟩ := exists_directory_of_descend? nonempty under
    refine ⟨⟨below, under, ?_⟩, fun _ => ((isDirectory_joinAll wellFormed leads before).1 above).1⟩
    cases opened : FileTree.openedAt? (path.joinAll ([] ++ names)) below with
    | none => rfl
    | some entries =>
      obtain ⟨rfl, accepted⟩ := FileTree.openedAt?_eq_some_iff.1 opened
      have directory := (isDirectory_joinAll wellFormed leads under).2 ⟨accepted, entries, rfl⟩
      rw [plain] at directory
      cases directory

/-- Names with the extension are not empty. -/
theorem ne_nil_of_hasDefinitionExtension {names : List String} (ends : FileTree.HasDefinitionExtension names) :
    names ≠ [] := by
  -- An empty path has no last name.
  intro empty
  obtain ⟨_, _, _, _, _, last⟩ := ends
  rw [empty] at last
  cases last

/-- The definition files below a path that leads to a tree are listed as they should be. -/
theorem listsDefinitionFiles (wellFormed : files.root.WellFormed) {path : Path} {tree : FileTree}
    (leads : files.lookup path = .ok tree) : files.ListsDefinitionFiles path tree (tree.definitionFiles path) := by
  -- Membership is known from the listing, and the rest says what it means to the system of files.
  have inner := wellFormed_of_lookup wellFormed leads
  have accepted := refusal?_of_lookup leads
  have complete (names : List String) : names ∈ tree.definitionFiles path ↔
      FileTree.HasDefinitionExtension names ∧ (∃ below, tree.descend? names = some below) ∧
        files.isDirectory (path.joinAll names.dropLast) = true ∧ files.isDirectory (path.joinAll names) = false := by
    rw [FileTree.mem_definitionFiles inner accepted, and_comm]
    refine and_congr_right fun ends => ?_
    exact met_iff_isDirectory wellFormed leads (ne_nil_of_hasDefinitionExtension ends)
  refine ⟨?_, FileTree.pairwise_definitionFiles inner accepted, complete, ?_, ?_, ?_⟩
  · unfold FileSystem.definitionFiles
    rw [leads]
  · intro names below under
    exact isDirectory_joinAll wellFormed leads under
  · intro every names
    rw [complete]
    refine and_congr_right fun ends => ?_
    constructor
    · intro met
      obtain ⟨⟨below, under⟩, _, plain⟩ := met
      cases below with
      | file text => exact ⟨text, under⟩
      | directory entries =>
        -- Its path is accepted, so it would be a directory.
        have directory := (isDirectory_joinAll wellFormed leads under).2 ⟨every names entries under, entries, rfl⟩
        rw [plain] at directory
        cases directory
    · intro file
      obtain ⟨text, under⟩ := file
      obtain ⟨entries, above⟩ := exists_directory_of_descend? (ne_nil_of_hasDefinitionExtension ends) under
      refine ⟨⟨_, under⟩, (isDirectory_joinAll wellFormed leads above).2 ⟨every _ _ above, entries, rfl⟩, ?_⟩
      rw [Bool.eq_false_iff, Ne, isDirectory_joinAll wellFormed leads under]
      simp
  · intro names listed content
    obtain ⟨ends, ⟨below, under⟩, _⟩ := (complete names).1 listed
    rw [read_joinAll wellFormed leads under (ne_nil_of_hasDefinitionExtension ends), under, Option.some.injEq]

end FileSystem

namespace DefinitionLibrary

/-- Among definitions listed by their names, what is listed under a name is the first of that name. -/
theorem lookup_map_name (definitions : List Definition) (name : String) :
    Dict.lookup name (definitions.map fun definition => (definition.name, definition)) =
      definitions.find? (·.name = name) := by
  -- Both look for the first definition with the name.
  induction definitions with
  | nil => rfl
  | cons definition rest ih =>
    rw [List.map_cons, Dict.lookup]
    by_cases same : definition.name = name
    · rw [if_pos same, List.find?_cons_of_pos (by simpa using same)]
    · rw [if_neg same, List.find?_cons_of_neg (by simpa using same), ih]

/-- The definitions in files, in order, are those in the texts of the files that can be read. -/
theorem flatMap_definitionsIn (files : FileSystem) (paths : List Path) :
    paths.flatMap (definitionsIn files) =
      (paths.filterMap fun file => (files.read file).toOption).flatMap fun text => Definition.ofText text.toList := by
  induction paths with
  | nil => rfl
  | cons file rest ih =>
    rw [List.flatMap_cons, ih]
    unfold definitionsIn
    -- A file that cannot be read has no definitions, and no text either.
    cases read : files.read file with
    | error failure => rw [List.filterMap_cons_none (by simp [read, Except.toOption]), List.nil_append]
    | ok text => rw [List.filterMap_cons_some (by simp [read, Except.toOption]; rfl), List.flatMap_cons]

/-- The same files that are listed in other orders have the same definition files below every path, which are listed as
they should be, and give the same library. It holds under a name the first definition of that name in the texts of the
files that can be read, in the order of search paths, of files and of positions in a text. -/
theorem load_relists {files other : FileSystem} (wellFormed : files.root.WellFormed) (relists : files.Relists other) :
    (∀ path, other.definitionFiles path = files.definitionFiles path) ∧
    (∀ path cause, files.lookup path = .error cause → files.definitionFiles path = []) ∧
    (∀ path tree, files.lookup path = .ok tree → ∃ listed, files.ListsDefinitionFiles path tree listed) ∧
    ∀ searchPaths,
      load other searchPaths = load files searchPaths ∧
      ∀ name, (load files searchPaths).find? name =
        (((searchPaths.flatMap files.definitionFiles).filterMap fun file => (files.read file).toOption).flatMap
          fun text => Definition.ofText text.toList).find? (·.name = name) := by
  refine ⟨relists.definitionFiles wellFormed, ?_, ?_, ?_⟩
  · intro path cause fails
    unfold FileSystem.definitionFiles
    rw [fails]
  · intro path tree leads
    exact ⟨tree.definitionFiles path, FileSystem.listsDefinitionFiles wellFormed leads⟩
  · intro searchPaths
    -- Loading asks for the definition files below each search path and for their texts, and both are the same.
    have listed : other.definitionFiles = files.definitionFiles := funext (relists.definitionFiles wellFormed)
    have read : definitionsIn other = definitionsIn files := by
      funext file
      unfold definitionsIn
      rw [relists.read wellFormed]
    constructor
    · unfold load
      rw [listed, read]
    -- The first file to define the name is the first in the order of the search.
    · intro name
      unfold find? load
      rw [Dict.get?_ofListFirst, lookup_map_name, flatMap_definitionsIn]

namespace Sample

/-- One name, declared with a type. -/
def mix (type : String) : Declaration where
  name := "ND_mix"
  category := "mix"
  type := some type
  inputs := []
  outputs := []
  distinct := List.nodup_nil

/-- The text that declares the name with a type. -/
def mixText (type : String) : String :=
  "<nodedef name='ND_mix' node='mix' type='" ++ type ++ "'/>"

/-- A file that defines one name with a type. -/
def defining (type : String) : FileTree :=
  .file (some (mixText type))

/-- What lies further down: two definition files with a file of another kind between them. -/
def inner : List (String × FileTree) :=
  [("y.MTLX", defining "color3"), ("notes.txt", .file none), ("z.mtlx", defining "vector3")]

/-- Three files define one name, one of them beside the directory of the others. -/
def outer : List (String × FileTree) :=
  [("a.mtlx", defining "float"), ("b", .directory inner)]

/-- The same files in the other order, at both depths. -/
def turned : List (String × FileTree) :=
  [("b", .directory inner.reverse), ("a.mtlx", defining "float")]

/-- The files below one directory. -/
def filesIn (entries : List (String × FileTree)) : FileSystem :=
  ⟨.directory [("lib", .directory entries)], []⟩

/-- The files are well-formed. -/
theorem wellFormed : (filesIn outer).root.WellFormed := by
  -- Each directory has names that are distinct and valid, from the innermost to the root.
  have isFile (type : String) : (defining type).WellFormed := .file _
  have below : (FileTree.directory inner).WellFormed :=
    .directory (by decide) (by decide) (by simp [inner, isFile, FileTree.WellFormed.file])
  have beside : (FileTree.directory outer).WellFormed :=
    .directory (by decide) (by decide) (by simp [outer, isFile, below])
  exact .directory (by simp) (by simp; decide) (by simp [beside])

/-- The other order lists the same files. -/
theorem relists : (filesIn outer).Relists (filesIn turned) := by
  -- Each directory lists the same names, and under each name the same file or a relisted directory.
  have isFile (type : String) : (defining type).Relists (defining type) := .file _
  have below : (FileTree.directory inner).Relists (.directory inner.reverse) := by
    refine .directory (by decide) ?_
    intro name tree tree' listed listed'
    simp only [inner, List.reverse_cons, List.reverse_nil, List.nil_append, List.cons_append, List.mem_cons,
      Prod.mk.injEq, List.not_mem_nil, or_false] at listed listed'
    rcases listed with ⟨rfl, rfl⟩ | ⟨rfl, rfl⟩ | ⟨rfl, rfl⟩
    · obtain rfl : tree' = defining "color3" := by simpa using listed'
      exact isFile "color3"
    · obtain rfl : tree' = .file none := by simpa using listed'
      exact .file none
    · obtain rfl : tree' = defining "vector3" := by simpa using listed'
      exact isFile "vector3"
  -- The outer directory lists the inner one in reverse.
  have beside : (FileTree.directory outer).Relists (.directory turned) := by
    refine .directory (by decide) ?_
    intro name tree tree' listed listed'
    simp only [outer, turned, List.mem_cons, Prod.mk.injEq, List.not_mem_nil, or_false] at listed listed'
    rcases listed with ⟨rfl, rfl⟩ | ⟨rfl, rfl⟩
    · obtain rfl : tree' = defining "float" := by simpa using listed'
      exact isFile "float"
    · obtain rfl : tree' = .directory inner.reverse := by simpa using listed'
      exact below
  refine ⟨.directory (by simp) ?_, rfl⟩
  intro name tree tree' listed listed'
  obtain rfl : tree = .directory outer := by simp_all
  obtain rfl : tree' = .directory turned := by simp_all
  exact beside

/-- The files are found in the order of their paths, so that sorting changes nothing. -/
theorem definitionFiles_outer :
    (filesIn outer).definitionFiles "lib" = ["lib/a.mtlx", "lib/b/y.MTLX", "lib/b/z.mtlx"] := by
  -- The entries are collected directory by directory, and are then in order already.
  have leads : (filesIn outer).lookup "lib" = .ok (.directory outer) := rfl
  have first : FileTree.isDefinitionFile ["a.mtlx"] = true := by decide +kernel
  have second : FileTree.isDefinitionFile ["b", "y.MTLX"] = true := by decide +kernel
  have third : FileTree.isDefinitionFile ["b", "z.mtlx"] = true := by decide +kernel
  have notes : FileTree.isDefinitionFile ["b", "notes.txt"] = false := by decide +kernel
  have accepted : FileSystem.refusal? (Path.joinAll "lib" ["b"]) = none := by decide +kernel
  -- The inner directory is opened after the files of the outer one are taken.
  have found : FileTree.collect "lib" [] [([], outer)] = [["a.mtlx"], ["b", "y.MTLX"], ["b", "z.mtlx"]] := by
    simp [FileTree.collect, FileTree.filesAmong, FileTree.directoriesAmong, FileTree.openedAt?, accepted, outer, inner,
      defining, first, second, third, notes]
  have sorted :
      (FileTree.directory outer).definitionFiles "lib" = [["a.mtlx"], ["b", "y.MTLX"], ["b", "z.mtlx"]] := by
    unfold FileTree.definitionFiles
    dsimp only
    rw [found]
    exact List.mergeSort_of_pairwise (by decide)
  unfold FileSystem.definitionFiles
  rw [leads]
  dsimp only
  rw [sorted]
  decide

/-- The text writes the declaration. -/
theorem writes : Definition.WritesDefinition (mix "float") (mixText "float").toList := by
  -- The three attributes are written one by one, and the text is then compared.
  have parts : Definition.WritesDefinition (mix "float") _ :=
    .empty [("name", "ND_mix"), ("node", "mix"), ("type", "float")] [] ⟨rfl, rfl⟩ ⟨[], by simp, by decide⟩
      (.plain [' '] '\'' (by decide) (by decide) (by decide) (by decide) <|
      .plain [' '] '\'' (by decide) (by decide) (by decide) (by decide) <|
      .plain [' '] '\'' (by decide) (by decide) (by decide) (by decide) .nil) (by decide)
  convert parts using 1
  decide +kernel

/-- The definition is the first that is read from the text. -/
theorem head?_ofText : (Definition.ofText (mixText "float").toList).head? = some (mix "float").definition := by
  -- The text is that of the definition and nothing else.
  have plain : ¬Definition.opening <:+: [] := by decide
  have read := Definition.ofText_of_writes_cons plain writes []
  rw [List.nil_append, List.append_nil] at read
  rw [read, List.head?_cons]

/-- The files that directories list in another order have the same definition files in the order of their names, and
give the same library. In both the name is bound to what the first file says. -/
theorem turned_alike :
    (filesIn outer).root.WellFormed ∧ (filesIn outer).Relists (filesIn turned) ∧
      (filesIn turned).definitionFiles "lib" = ["lib/a.mtlx", "lib/b/y.MTLX", "lib/b/z.mtlx"] ∧
      load (filesIn turned) ["lib"] = load (filesIn outer) ["lib"] ∧
      (load (filesIn turned) ["lib"]).find? "ND_mix" = some (mix "float").definition := by
  obtain ⟨alike, _, _, library⟩ := load_relists wellFormed relists
  obtain ⟨same, bound⟩ := library ["lib"]
  refine ⟨wellFormed, relists, (alike "lib").trans definitionFiles_outer, same, ?_⟩
  have text : (filesIn outer).read "lib/a.mtlx" = .ok (mixText "float") := rfl
  obtain ⟨others, read⟩ := List.head?_eq_some_iff.1 head?_ofText
  -- The file in front is read first, and its one definition has the name.
  rw [same, bound, List.flatMap_singleton, definitionFiles_outer,
    List.filterMap_cons_some (by rw [text]; rfl), List.flatMap_cons, read, List.cons_append,
    List.find?_cons_of_pos (by decide)]

/-- A directory with a definition file in it. -/
def deep : List (String × FileTree) :=
  [("sub", .directory [("a.mtlx", defining "float")])]

/-- Slashes. -/
def slashes : Nat → String
  | 0 => ""
  | n + 1 => slashes n ++ "/"

/-- The directory at a path that is as long as a path may be. -/
def long : Path :=
  "lib" ++ slashes 4092

/-- Each slash has one byte. -/
theorem utf8ByteSize_slashes (n : Nat) : (slashes n).utf8ByteSize = n := by
  -- The slash that is put on is a byte of its own.
  induction n with
  | zero => rfl
  | succ n ih =>
    rw [slashes, String.utf8ByteSize_append, ih]
    rfl

/-- Slashes hold no NUL. -/
theorem nul_not_mem_slashes (n : Nat) : '\x00' ∉ (slashes n).toList := by
  -- All characters are slashes.
  induction n with
  | zero => simp [slashes]
  | succ n ih => simp [slashes, ih]

/-- Slashes at the end of a path make no components. -/
theorem components_append_slashes (n : Nat) : Path.components ("lib" ++ slashes n) = [.name "lib"] := by
  -- One slash after the other is taken off.
  induction n with
  | zero => decide
  | succ n ih =>
    rw [slashes, ← String.append_assoc, Path.components_append_slash (by simp), ih]

/-- Files are looked for at the path. -/
theorem refusal?_long : FileSystem.refusal? long = none := by
  -- The path has one byte less than the limit.
  rw [FileSystem.refusal?_eq_none_iff, long, String.utf8ByteSize_append, utf8ByteSize_slashes]
  simp [nul_not_mem_slashes, FileSystem.pathLimit]
  decide

/-- The path leads to the directory. -/
theorem lookup_long : (filesIn deep).lookup long = .ok (.directory deep) := by
  -- The slashes at the end are no components, so the path leads where the name does.
  have located : (filesIn deep).locate long = .ok ["lib"] := by
    rw [FileSystem.locate_eq_ok_iff, long, components_append_slashes]
    exact ⟨refusal?_long, by decide, rfl⟩
  unfold FileSystem.lookup
  rw [located]
  rfl

/-- No file is looked for at a path that goes on from there. -/
theorem refusal?_joinAll_long : FileSystem.refusal? (long.joinAll ["sub"]) ≠ none := by
  -- The name of the directory makes the path longer than the limit.
  rw [Ne, FileSystem.refusal?_eq_none_iff, not_and, Nat.not_lt]
  intro _
  obtain ⟨between, longer⟩ := Path.exists_append_join long (by decide : Path.IsName "sub")
  have bytes : long.utf8ByteSize = 4095 := by
    rw [long, String.utf8ByteSize_append, utf8ByteSize_slashes]
    rfl
  unfold Path.joinAll FileSystem.pathLimit
  rw [List.foldl_cons, List.foldl_nil, longer, String.utf8ByteSize_append, String.utf8ByteSize_append, bytes]
  have name : "sub".utf8ByteSize = 3 := rfl
  omega

/-- Where the path of the inner directory is refused, the directory is taken for a file, and one without the
extension. -/
theorem definitionFiles_deep {path : Path} (leads : (filesIn deep).lookup path = .ok (.directory deep))
    (refused : FileSystem.refusal? (path.joinAll ["sub"]) ≠ none) : (filesIn deep).definitionFiles path = [] := by
  -- The one directory below is taken for a file, which has no extension.
  have unopened : FileTree.openedAt? (path.joinAll ["sub"]) (.directory [("a.mtlx", defining "float")]) = none :=
    FileTree.openedAt?_eq_none_iff.2 (.inr ⟨⟨_, rfl⟩, refused⟩)
  have plain : FileTree.isDefinitionFile ["sub"] = false := by decide +kernel
  unfold FileSystem.definitionFiles
  rw [leads]
  simp [FileTree.definitionFiles, FileTree.collect, FileTree.filesAmong, FileTree.directoriesAmong, deep, unopened,
    plain]

/-- A path without definition files below it gives no definitions. -/
theorem find?_load_of_definitionFiles_eq_nil {files : FileSystem} {path : Path} (nothing : files.definitionFiles path = [])
    (name : String) : (load files [path]).find? name = none := by
  -- Without files there are no definitions to insert.
  unfold load find?
  dsimp only
  rw [List.flatMap_singleton, nothing, Dict.get?_ofListFirst]
  rfl

/-- The definition file two levels below a path is not listed where the path of the directory between them is too long,
and what it defines is missing. -/
theorem deep_unlisted :
    (filesIn deep).lookup long = .ok (.directory deep) ∧
    (FileTree.directory deep).descend? ["sub", "a.mtlx"] = some (defining "float") ∧
    FileTree.HasDefinitionExtension ["sub", "a.mtlx"] ∧
    (filesIn deep).definitionFiles long = [] ∧
    (load (filesIn deep) [long]).find? "ND_mix" = none := by
  -- The path of the search is accepted, and that of the directory below is not.
  have nothing := definitionFiles_deep lookup_long refusal?_joinAll_long
  exact ⟨lookup_long, rfl, ⟨"a", "mtlx", by decide, by decide, by decide +kernel, rfl⟩, nothing,
    find?_load_of_definitionFiles_eq_nil nothing "ND_mix"⟩

end Sample

end DefinitionLibrary

end ShadeBake

import ShadeBake.FileTree
import ShadeBake.Filter
import ShadeBake.Proofs.Path
import ShadeBake.Proofs.Success

/-! Files that directories list in another order are the same files: every path leads to the same place and reads as
the same text. A path that goes on at the names of a file leads to that file. -/

namespace ShadeBake

/-- A name that an entry of a directory can have: a component of its own that is short enough. -/
structure IsFileName (name : String) : Prop extends Path.IsName name where
  short : name.utf8ByteSize ≤ FileSystem.nameLimit

instance (name : String) : Decidable (IsFileName name) :=
  decidable_of_iff (Path.IsName name ∧ name.utf8ByteSize ≤ FileSystem.nameLimit)
    ⟨fun ⟨isName, short⟩ => ⟨isName, short⟩, fun ⟨isName, short⟩ => ⟨isName, short⟩⟩

namespace FileTree

/-- Each directory of a tree lists each of its entries once, under a name that a file can have. -/
inductive WellFormed : FileTree → Prop
  | file (text : Option String) : WellFormed (.file text)
  | directory {entries : List (String × FileTree)} (distinct : (entries.map (·.1)).Nodup)
      (named : ∀ entry ∈ entries, IsFileName entry.1) (below : ∀ entry ∈ entries, WellFormed entry.2) :
      WellFormed (.directory entries)

/-- A tree lists another one again when it has the same files in the same directories, which may list their entries
in other orders. -/
inductive Relists : FileTree → FileTree → Prop
  | file (text : Option String) : Relists (.file text) (.file text)
  | directory {entries others : List (String × FileTree)} (names : (others.map (·.1)).Perm (entries.map (·.1)))
      (below : ∀ name tree tree', (name, tree) ∈ entries → (name, tree') ∈ others → Relists tree tree') :
      Relists (.directory entries) (.directory others)

variable {tree other below : FileTree} {entries others : List (String × FileTree)} {name : String}
  {names : List String}

/-! ### What lies below a tree -/

/-- A directory holds under a name what it lists under that name. -/
theorem child?_eq_some_iff (distinct : (entries.map (·.1)).Nodup) :
    (directory entries).child? name = some below ↔ (name, below) ∈ entries := by
  -- Names are distinct, so the entry that is found is the only one of its name.
  unfold child?
  dsimp only
  rw [Option.map_eq_some_iff]
  constructor
  · intro held
    obtain ⟨entry, found, rfl⟩ := held
    obtain ⟨listed, rfl⟩ := (find?_eq_some_iff_of_nodup distinct).1 found
    exact listed
  · intro listed
    exact ⟨(name, below), (find?_eq_some_iff_of_nodup distinct).2 ⟨listed, rfl⟩, rfl⟩

/-- A directory holds nothing under a name exactly if it does not list the name. -/
theorem child?_eq_none_iff : (directory entries).child? name = none ↔ name ∉ entries.map (·.1) := by
  -- The search fails exactly if no entry passes its test.
  unfold child?
  rw [Option.map_eq_none_iff, List.find?_eq_none]
  constructor
  · intro apart listed
    obtain ⟨entry, member, same⟩ := List.mem_map.1 listed
    exact apart entry member (by simpa using same)
  · intro unlisted entry member same
    exact unlisted (List.mem_map.2 ⟨entry, member, by simpa using same⟩)

/-- What a well-formed directory holds under a name is well-formed, and a file can have the name. -/
theorem WellFormed.child? (wellFormed : tree.WellFormed) (held : tree.child? name = some below) :
    IsFileName name ∧ below.WellFormed := by
  -- A file has no children, and a directory's entries are well formed by its own rule.
  cases wellFormed with
  | file text => cases held
  | directory distinct named inner =>
    have listed := (child?_eq_some_iff distinct).1 held
    exact ⟨named _ listed, inner _ listed⟩

/-- What lies under a list of names and then under another one lies under both in a row. -/
theorem descend?_append (tree : FileTree) (names others : List String) :
    tree.descend? (names ++ others) = (tree.descend? names).bind (FileTree.descend? · others) := by
  -- Each name is one step down, and the other names go on from where the names end.
  induction names generalizing tree with
  | nil => rfl
  | cons name names ih =>
    rw [List.cons_append, descend?, descend?, Option.bind_assoc]
    congr 1
    funext child
    exact ih child

/-- What lies below a well-formed tree is well-formed, and files can have the names on the way. -/
theorem WellFormed.descend? (wellFormed : tree.WellFormed) (leads : tree.descend? names = some below) :
    below.WellFormed ∧ ∀ name ∈ names, IsFileName name := by
  -- Every step leads to an entry of a well-formed directory.
  induction names generalizing tree with
  | nil =>
    cases leads
    exact ⟨wellFormed, by simp⟩
  | cons name names ih =>
    obtain ⟨child, held, leads⟩ := Option.bind_eq_some_iff.1 leads
    obtain ⟨isFileName, inner⟩ := wellFormed.child? held
    obtain ⟨wellFormed, named⟩ := ih inner leads
    exact ⟨wellFormed, List.forall_mem_cons.2 ⟨isFileName, named⟩⟩

/-! ### Trees that are listed again -/

/-- A tree that is listed again stays well-formed. -/
theorem Relists.wellFormed (relists : tree.Relists other) (wellFormed : tree.WellFormed) : other.WellFormed := by
  induction relists with
  | file text => exact wellFormed
  | @directory entries others names _ ih =>
    cases wellFormed with
    | directory distinct named inner =>
      -- Each entry is one of before under the same name.
      have before (entry : String × FileTree) (listed : entry ∈ others) : ∃ tree, (entry.1, tree) ∈ entries := by
        obtain ⟨⟨_, tree⟩, listed', rfl⟩ := List.mem_map.1 (names.mem_iff.1 (List.mem_map_of_mem listed))
        exact ⟨tree, listed'⟩
      -- The names are the same in another order, and what stands below is listed again.
      refine .directory (names.nodup_iff.2 distinct) ?_ ?_
      · intro entry listed
        obtain ⟨tree, listed'⟩ := before entry listed
        exact named (entry.1, tree) listed'
      · intro entry listed
        obtain ⟨tree, listed'⟩ := before entry listed
        exact ih entry.1 tree entry.2 listed' listed (inner _ listed')

/-- What directories hold under a name is listed again when they are. -/
theorem Relists.child? (relists : tree.Relists other) (wellFormed : tree.WellFormed) (name : String) :
    Option.Rel Relists (tree.child? name) (other.child? name) := by
  cases relists with
  | file text => exact .none
  | @directory entries others names inner =>
    cases wellFormed with
    | directory distinct named below =>
      have distinct' : (others.map (·.1)).Nodup := names.nodup_iff.2 distinct
      -- Either both directories list the name or neither does.
      by_cases listed : name ∈ entries.map (·.1)
      · obtain ⟨⟨_, child⟩, member, rfl⟩ := List.mem_map.1 listed
        obtain ⟨⟨_, child'⟩, member', same⟩ := List.mem_map.1 (names.mem_iff.2 listed)
        dsimp only at same member'
        subst same
        rw [(child?_eq_some_iff distinct).2 member, (child?_eq_some_iff distinct').2 member']
        exact .some (inner _ _ _ member member')
      -- The names of the one directory are those of the other.
      · have unlisted : name ∉ others.map (·.1) := fun listed' => listed (names.mem_iff.1 listed')
        rw [child?_eq_none_iff.2 listed, child?_eq_none_iff.2 unlisted]
        exact .none

/-- What lies under a list of names is listed again when the tree is. -/
theorem Relists.descend? (relists : tree.Relists other) (wellFormed : tree.WellFormed) (names : List String) :
    Option.Rel Relists (tree.descend? names) (other.descend? names) := by
  -- The first name leads to a tree and to the same one listed again, where the other names go on.
  induction names generalizing tree other with
  | nil => exact .some relists
  | cons name names ih =>
    have children := relists.child? wellFormed name
    unfold FileTree.descend?
    cases held : tree.child? name with
    | none =>
      rw [held] at children
      cases held' : other.child? name with
      | none => exact .none
      | some child' => simp [held'] at children
    | some child =>
      rw [held] at children
      cases held' : other.child? name with
      | none => simp [held'] at children
      -- Both children exist, and one is the other listed again.
      | some child' =>
        rw [held', Option.rel_some_some] at children
        exact ih children (wellFormed.child? held).2

/-- Under a list of names two trees of which one lists the other again have nothing, the same file, or directories of
which one lists the other again. -/
theorem Relists.descend?_cases (relists : tree.Relists other) (wellFormed : tree.WellFormed) (names : List String) :
    (tree.descend? names = none ∧ other.descend? names = none) ∨
    (∃ text, tree.descend? names = some (.file text) ∧ other.descend? names = some (.file text)) ∨
    ∃ entries others, tree.descend? names = some (.directory entries) ∧
      other.descend? names = some (.directory others) ∧ (FileTree.directory entries).Relists (.directory others) := by
  -- Both trees lead to relisted trees or to nothing, and a relisted file is the same file.
  have there := relists.descend? wellFormed names
  generalize tree.descend? names = below at there
  generalize other.descend? names = below' at there
  cases there with
  | none => exact .inl ⟨rfl, rfl⟩
  | some again =>
    cases again with
    | file text => exact .inr (.inl ⟨text, rfl, rfl⟩)
    | directory names inner => exact .inr (.inr ⟨_, _, rfl, rfl, .directory names inner⟩)

end FileTree

namespace FileSystem

variable {files other : FileSystem}

/-! ### Paths to files that are listed again -/

/-- Files are listed again when their tree is, and relative paths start from the same directory. -/
structure Relists (files other : FileSystem) : Prop where
  tree : files.root.Relists other.root
  start : other.workingDirectory = files.workingDirectory

/-- A step along a path leads to the same place when the files are listed again. -/
theorem Relists.step (relists : files.Relists other) (wellFormed : files.root.WellFormed) (place : List String)
    (component : Path.Component) : other.step place component = files.step place component := by
  unfold FileSystem.step
  -- A step asks only for what is at the place.
  rcases relists.tree.descend?_cases wellFormed place.reverse with
    ⟨here, here'⟩ | ⟨text, here, here'⟩ | ⟨entries, others, here, here', again⟩
  · rw [here, here']
  · rw [here, here']
  · rw [here, here']
    cases component with
    | root => rfl
    | current => rfl
    | parent => rfl
    | name text =>
      -- Only whether the name is listed matters, not where.
      have same : others.any (·.1 = text) = entries.any (·.1 = text) := by
        cases again with
        | directory names below =>
          rw [Bool.eq_iff_iff]
          simpa using names.mem_iff (a := text)
      simp only [same]

/-- A path leads to the same place when the files are listed again. -/
theorem Relists.locate (relists : files.Relists other) (wellFormed : files.root.WellFormed) (path : Path) :
    other.locate path = files.locate path := by
  -- A place is found by steps from the working directory, and both trees take the same ones.
  unfold FileSystem.locate
  have same : other.step = files.step := by
    funext place component
    exact relists.step wellFormed place component
  rw [same, relists.start]

/-- A path leads to the same tree, listed again, or nowhere for the same cause. -/
theorem Relists.lookup (relists : files.Relists other) (wellFormed : files.root.WellFormed) (path : Path) :
    (∃ tree tree', files.lookup path = .ok tree ∧ other.lookup path = .ok tree' ∧ tree.Relists tree') ∨
      ∃ cause, files.lookup path = .error cause ∧ other.lookup path = .error cause := by
  unfold FileSystem.lookup
  rw [relists.locate wellFormed]
  cases files.locate path with
  | error cause => exact .inr ⟨cause, rfl, rfl⟩
  | ok place =>
    simp only [bind, Except.bind]
    -- Both paths lead to the place, but a file there is refused where the path asks for a directory.
    rcases relists.tree.descend?_cases wellFormed place.reverse with
      ⟨here, here'⟩ | ⟨text, here, here'⟩ | ⟨entries, others, here, here', again⟩
    -- The place leads nowhere in either.
    · rw [here, here']
      exact .inr ⟨.missing, rfl, rfl⟩
    · rw [here, here']
      dsimp only
      split
      · exact .inr ⟨.throughFile, rfl, rfl⟩
      · exact .inl ⟨_, _, rfl, rfl, .file text⟩
    · rw [here, here']
      exact .inl ⟨_, _, rfl, rfl, again⟩

/-- A path reads as the same text, or fails for the same cause, when the files are listed again. -/
theorem Relists.read (relists : files.Relists other) (wellFormed : files.root.WellFormed) (path : Path) :
    other.read path = files.read path := by
  -- Reading is a look-up that ends at a file, of which both have the same text.
  unfold FileSystem.read
  rcases relists.lookup wellFormed path with ⟨tree, tree', leads, leads', again⟩ | ⟨cause, fails, fails'⟩
  · rw [leads, leads']
    cases again with
    | file text => rfl
    | directory names below => rfl
  · rw [fails, fails']

/-! ### Paths that go on at names -/

variable {path : Path} {tree : FileTree} {names place : List String}

/-- What a path leads to lies in the tree of the files. -/
theorem exists_descend?_of_lookup (leads : files.lookup path = .ok tree) :
    ∃ place, files.locate path = .ok place ∧ files.root.descend? place.reverse = some tree := by
  -- A look-up locates the place first, and then fails unless a tree is there.
  unfold FileSystem.lookup at leads
  obtain ⟨place, located, leads⟩ := ok_of_bind leads
  refine ⟨place, located, ?_⟩
  split at leads
  · cases leads
  · split at leads
    · cases leads
    · cases leads
      assumption
  · cases leads
    assumption

/-- What a path leads to among well-formed files is well-formed. -/
theorem wellFormed_of_lookup (wellFormed : files.root.WellFormed) (leads : files.lookup path = .ok tree) :
    tree.WellFormed := by
  -- What is found stands below the root.
  obtain ⟨place, _, there⟩ := exists_descend?_of_lookup leads
  exact (wellFormed.descend? there).1

/-- A step along a path at a name in a directory leads to what the directory holds under the name. -/
theorem step_name {name : String} {child : FileTree} (there : files.root.descend? place.reverse = some tree)
    (held : tree.child? name = some child) (isFileName : IsFileName name) :
    files.step place (.name name) = .ok (name :: place) := by
  -- A name is followed where it is short enough and among the entries.
  unfold step
  dsimp only
  rw [there]
  cases tree with
  | file text => cases held
  | directory entries =>
    have listed : entries.any (·.1 = name) = true := by
      obtain ⟨entry, found, _⟩ := Option.map_eq_some_iff.1 held
      have same := List.find?_some found
      exact List.any_eq_true.2 ⟨entry, List.mem_of_find?_eq_some found, same⟩
    dsimp only
    rw [if_neg (Nat.not_lt.2 isFileName.short), if_pos listed]

/-- Steps at the names down to something in a tree lead there. -/
theorem foldlM_step (there : files.root.descend? place.reverse = some tree) {below : FileTree}
    (leads : tree.descend? names = some below) (named : ∀ name ∈ names, IsFileName name) :
    (names.map Path.Component.name).foldlM files.step place = .ok (names.reverse ++ place) := by
  -- Places are kept in reverse, so each name that was stepped at comes in front of those before it.
  induction names generalizing place tree with
  | nil => rfl
  | cons name names ih =>
    rw [List.forall_mem_cons] at named
    obtain ⟨child, held, leads⟩ := Option.bind_eq_some_iff.1 leads
    have next : files.root.descend? (name :: place).reverse = some child := by
      rw [List.reverse_cons, FileTree.descend?_append, there]
      simp [FileTree.descend?, held]
    have later := ih next leads named.2
    rw [List.map_cons, List.foldlM_cons, step_name there held named.1]
    simp only [bind, Except.bind, later, List.reverse_cons, List.append_assoc, List.singleton_append]

/-- A path leads somewhere exactly if files are looked for there, and its components lead there one by one. -/
theorem locate_eq_ok_iff :
    files.locate path = .ok place ↔ refusal? path = none ∧ Path.components path ≠ [] ∧
      (Path.components path).foldlM files.step files.workingDirectory.reverse = .ok place := by
  -- A path is refused as text before its components are followed.
  unfold locate
  cases refusal? path with
  | some failure => simp
  | none =>
    cases Path.components path with
    | nil => simp
    | cons first rest => simp

/-- Files are looked for at a path exactly if it holds no NUL and has fewer bytes than the limit. -/
theorem refusal?_eq_none_iff {path : Path} :
    refusal? path = none ↔ '\x00' ∉ path.toList ∧ path.utf8ByteSize < pathLimit := by
  -- There are two reasons to refuse a path, tried one after the other.
  unfold refusal?
  split
  · simp_all
  · split
    · simp_all
    · simp_all

/-- Where files are looked for at a path that goes on at names, they are looked for at each path on the way. -/
theorem refusal?_of_joinAll {path : Path} {names others : List String} (named : ∀ name ∈ others, Path.IsName name)
    (accepted : refusal? (path.joinAll (names ++ others)) = none) : refusal? (path.joinAll names) = none := by
  rw [Path.joinAll_append] at accepted
  generalize path.joinAll names = path at accepted
  -- Each name only adds bytes behind those that are there.
  induction others generalizing path with
  | nil => exact accepted
  | cons name rest ih =>
    rw [List.forall_mem_cons] at named
    have next := ih named.2 _ accepted
    obtain ⟨between, longer⟩ := Path.exists_append_join path named.1
    rw [longer, refusal?_eq_none_iff] at next
    simp only [String.toList_append, String.utf8ByteSize_append, List.mem_append, not_or] at next
    obtain ⟨⟨⟨noNul, _⟩, _⟩, short⟩ := next
    exact refusal?_eq_none_iff.2 ⟨noNul, by omega⟩

/-- The empty path leads nowhere. -/
theorem ne_empty_of_locate (located : files.locate path = .ok place) : path ≠ "" := by
  -- The empty path has no components.
  intro empty
  subst empty
  exact (locate_eq_ok_iff.1 located).2.1 (by decide)

/-- A path that goes on at names need not lead to a directory. -/
theorem namesDirectory_joinAll (somewhere : path ≠ "") (nonempty : names ≠ [])
    (named : ∀ name ∈ names, Path.IsName name) : namesDirectory (path.joinAll names) = false := by
  -- The last piece is the last name, which is neither empty nor made of dots.
  have ends := List.getLast?_eq_some_getLast nonempty
  unfold namesDirectory
  rw [Path.getLast?_pieces_joinAll somewhere named ends]
  simp [(named _ (List.getLast_mem nonempty)).componentOf]

/-- Nothing is found at a path that is refused. -/
theorem lookup_of_refused {failure : ReadFailure} (refused : refusal? path = some failure) :
    files.lookup path = .error failure := by
  -- A refused path is not located.
  unfold lookup locate
  rw [refused]
  rfl

/-- A path that goes on at names from where another one leads to leads to what lies under the names, if files are looked
for at the path. -/
theorem lookup_joinAll (wellFormed : files.root.WellFormed) (leads : files.lookup path = .ok tree)
    {below : FileTree} (under : tree.descend? names = some below) (nonempty : names ≠ [])
    (accepted : refusal? (path.joinAll names) = none) : files.lookup (path.joinAll names) = .ok below := by
  obtain ⟨place, located, there⟩ := exists_descend?_of_lookup leads
  have named := ((wellFormed_of_lookup wellFormed leads).descend? under).2
  have named' : ∀ name ∈ names, Path.IsName name := fun name inside => (named name inside).toIsName
  have somewhere := ne_empty_of_locate located
  -- The first components lead to the tree, and the names from there on.
  have located' : files.locate (path.joinAll names) = .ok (names.reverse ++ place) := by
    obtain ⟨_, parts, walked⟩ := locate_eq_ok_iff.1 located
    rw [locate_eq_ok_iff, Path.components_joinAll somewhere named']
    refine ⟨accepted, by simp [parts], ?_⟩
    rw [List.foldlM_append, walked]
    exact foldlM_step there under named
  have there' : files.root.descend? (names.reverse ++ place).reverse = some below := by
    rw [List.reverse_append, List.reverse_reverse, FileTree.descend?_append, there]
    exact under
  -- No slash is at the end, so the path may lead to a file.
  have plain := namesDirectory_joinAll somewhere nonempty named'
  unfold lookup
  rw [located']
  simp only [bind, Except.bind, there', plain]
  cases below with
  | file text => rfl
  | directory entries => rfl

/-- A path that goes on at names reads as a text exactly if files are looked for at the path and a file with that text
lies under the names. -/
theorem read_joinAll (wellFormed : files.root.WellFormed) (leads : files.lookup path = .ok tree)
    {below : FileTree} (under : tree.descend? names = some below) (nonempty : names ≠ []) {content : String} :
    files.read (path.joinAll names) = .ok content ↔
      refusal? (path.joinAll names) = none ∧ below = .file (some content) := by
  unfold read
  cases refused : refusal? (path.joinAll names) with
  | some failure =>
    rw [lookup_of_refused refused]
    simp [bind, Except.bind]
  | none =>
    rw [lookup_joinAll wellFormed leads under nonempty refused]
    -- Only a file that has a text is read.
    cases below with
    | file text => cases text <;> simp [bind, Except.bind, pure, Except.pure]
    | directory entries => simp [bind, Except.bind]

/-- A path that goes on at names leads to a directory exactly if files are looked for at the path and a directory lies
under the names. -/
theorem isDirectory_joinAll (wellFormed : files.root.WellFormed) (leads : files.lookup path = .ok tree)
    {below : FileTree} (under : tree.descend? names = some below) :
    files.isDirectory (path.joinAll names) = true ↔
      refusal? (path.joinAll names) = none ∧ ∃ entries, below = .directory entries := by
  unfold isDirectory
  cases refused : refusal? (path.joinAll names) with
  -- A refused path leads nowhere.
  | some failure =>
    rw [lookup_of_refused refused]
    simp
  | none =>
    have found : files.lookup (path.joinAll names) = .ok below := by
      -- Without names the path is the one that leads to the tree.
      cases names with
      | nil =>
        cases under
        exact leads
      | cons name rest => exact lookup_joinAll wellFormed leads under (List.cons_ne_nil _ _) refused
    rw [found]
    cases below <;> simp

end FileSystem

end ShadeBake

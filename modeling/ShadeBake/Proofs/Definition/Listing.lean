import Mathlib.Data.List.Nodup
import ShadeBake.Definition.Library
import ShadeBake.Proofs.FileTree

/-! The definition files below a tree are all files with the right extension that can be met, each once, in the order
of their paths, whatever order the directories list their entries in. -/

namespace ShadeBake

namespace FileTree

mutual

/-- The names that lead to the files that are met below a tree, from the names on under which the tree itself is met
below a path. -/
def filesBelow (path : Path) (above : List String) : FileTree → List (List String)
  | .file _ => [above]
  | .directory entries =>
    if (FileSystem.refusal? (path.joinAll above)).isNone then filesOf path above entries else [above]

/-- The names that lead to the files that are met below the entries of a directory. -/
def filesOf (path : Path) (above : List String) : List (String × FileTree) → List (List String)
  | [] => []
  | (name, tree) :: rest => filesBelow path (above ++ [name]) tree ++ filesOf path above rest

end

/-- The last name is one with a dot behind other characters, and after its last dot comes `mtlx` in any case. -/
def HasDefinitionExtension (names : List String) : Prop :=
  ∃ stem extension, stem ≠ "" ∧ '.' ∉ extension.toList ∧ extension.toLower = "mtlx" ∧
    names.getLast? = some (stem ++ "." ++ extension)

/-- Names lead on to something that no entries are read from, and the directory it lies in can be opened. -/
structure Met (path : Path) (above : List String) (tree : FileTree) (names : List String) : Prop where
  ends : ∃ below, tree.descend? names = some below ∧ openedAt? (path.joinAll (above ++ names)) below = none
  opened : names ≠ [] → FileSystem.refusal? (path.joinAll (above ++ names.dropLast)) = none

variable {tree other : FileTree} {entries others : List (String × FileTree)} {path : Path}
  {above names : List String} {name : String}

/-! ### The files below a tree -/

/-- Nothing is read from a tree exactly if it is a file, or a directory at whose path no file is looked for. -/
theorem openedAt?_eq_none_iff :
    openedAt? path tree = none ↔
      (∃ text, tree = .file text) ∨ (∃ entries, tree = .directory entries) ∧ FileSystem.refusal? path ≠ none := by
  -- Only for a directory does the path matter.
  cases tree with
  | file text => simp [openedAt?]
  | directory entries => cases refused : FileSystem.refusal? path <;> simp [openedAt?, refused]

/-- Entries are read from a directory exactly if files are looked for at its path. -/
theorem openedAt?_eq_some_iff :
    openedAt? path tree = some entries ↔ tree = .directory entries ∧ FileSystem.refusal? path = none := by
  -- A tree is opened if it is a directory and its path is accepted.
  cases tree with
  | file text => simp [openedAt?]
  | directory others => cases refused : FileSystem.refusal? path <;> simp [openedAt?, refused]

/-- A tree that no entries are read from is met itself. -/
theorem filesBelow_of_unopened (unopened : openedAt? (path.joinAll above) tree = none) :
    filesBelow path above tree = [above] := by
  -- What is not opened is a file, or is taken for one.
  rcases openedAt?_eq_none_iff.1 unopened with ⟨text, rfl⟩ | ⟨⟨entries, rfl⟩, refused⟩
  · rw [filesBelow]
  · rw [filesBelow, if_neg (by simpa using refused)]

/-- Below a tree that entries are read from are met those below its entries. -/
theorem filesBelow_of_opened (opened : openedAt? (path.joinAll above) tree = some entries) :
    filesBelow path above tree = filesOf path above entries := by
  -- What is opened is gone through entry by entry.
  obtain ⟨rfl, accepted⟩ := openedAt?_eq_some_iff.1 opened
  rw [filesBelow, if_pos (by simp [accepted])]

/-- A file is met below the entries of a directory exactly if it is met below one of them. -/
theorem mem_filesOf :
    names ∈ filesOf path above entries ↔
      ∃ name tree, (name, tree) ∈ entries ∧ names ∈ filesBelow path (above ++ [name]) tree := by
  -- The first entry is the one, or one of the others is.
  induction entries with
  | nil => simp [filesOf]
  | cons entry others ih =>
    obtain ⟨name, tree⟩ := entry
    rw [filesOf, List.mem_append, ih]
    constructor
    · intro met
      rcases met with here | ⟨name', tree', listed, there⟩
      · exact ⟨name, tree, List.mem_cons_self, here⟩
      · exact ⟨name', tree', List.mem_cons_of_mem _ listed, there⟩
    -- A member of the whole list is the first or one behind it.
    · intro met
      obtain ⟨name', tree', listed, there⟩ := met
      rcases List.mem_cons.1 listed with here | later
      · cases here
        exact .inl there
      · exact .inr ⟨name', tree', later, there⟩

/-- A tree is met itself exactly if no entries are read from it. -/
theorem met_nil_iff : Met path above tree [] ↔ openedAt? (path.joinAll above) tree = none := by
  -- At the end of the path only the tree itself is looked at.
  constructor
  · intro met
    obtain ⟨below, leads, unopened⟩ := met.ends
    cases leads
    rwa [List.append_nil] at unopened
  · intro unopened
    exact ⟨⟨tree, rfl, by rwa [List.append_nil]⟩, fun nonempty => absurd rfl nonempty⟩

/-- From a directory that can be opened on, names are met exactly if the first of them is that of an entry and the others
are met from that entry on. -/
theorem met_cons_iff (distinct : (entries.map (·.1)).Nodup)
    (accepted : FileSystem.refusal? (path.joinAll above) = none) :
    Met path above (.directory entries) (name :: names) ↔
      ∃ child, (name, child) ∈ entries ∧ Met path (above ++ [name]) child names := by
  have behind (others : List String) : above ++ name :: others = above ++ [name] ++ others := by simp
  constructor
  · intro met
    obtain ⟨below, leads, unopened⟩ := met.ends
    obtain ⟨child, held, leads⟩ := Option.bind_eq_some_iff.1 leads
    rw [behind] at unopened
    refine ⟨child, (child?_eq_some_iff distinct).1 held, ⟨below, leads, unopened⟩, fun nonempty => ?_⟩
    -- The directory that the last name lies in is the same from both trees on.
    have opened := met.opened (List.cons_ne_nil _ _)
    rwa [List.dropLast_cons_of_ne_nil nonempty, behind] at opened
  · intro met
    obtain ⟨child, listed, ⟨below, leads, unopened⟩, opened⟩ := met
    refine ⟨⟨below, ?_, by rwa [behind]⟩, fun _ => ?_⟩
    · rw [descend?, (child?_eq_some_iff distinct).2 listed]
      exact leads
    -- The last name lies in the directory itself if it is the only one.
    · cases names with
      | nil => simpa using accepted
      | cons next rest =>
        have opened := opened (List.cons_ne_nil _ _)
        rwa [List.dropLast_cons_of_ne_nil (List.cons_ne_nil _ _), behind]

/-- From a directory that cannot be opened on, nothing else is met. -/
theorem eq_nil_of_met (wellFormed : tree.WellFormed) (refused : FileSystem.refusal? (path.joinAll above) ≠ none)
    (met : Met path above tree names) : names = [] := by
  by_contra nonempty
  obtain ⟨below, leads, _⟩ := met.ends
  -- What lies in a directory that can be opened lies below such directories only.
  have named : ∀ name ∈ names.dropLast, Path.IsName name := fun name inside =>
    ((wellFormed.descend? leads).2 name (List.dropLast_subset _ inside)).toIsName
  exact refused (FileSystem.refusal?_of_joinAll named (met.opened nonempty))

/-- Names are listed for the files that are met below a well-formed tree exactly if they are met from the tree on. -/
theorem mem_filesBelow (wellFormed : tree.WellFormed) :
    names ∈ filesBelow path above tree ↔ ∃ rest, names = above ++ rest ∧ Met path above tree rest := by
  -- A name leads to one entry of a directory, and what is met under other names is not below that entry.
  induction wellFormed generalizing above with
  | file text =>
    rw [filesBelow, List.mem_singleton]
    constructor
    · intro here
      exact ⟨[], by simpa using here, met_nil_iff.2 rfl⟩
    · intro met
      obtain ⟨rest, rfl, met⟩ := met
      cases rest with
      | nil => simp
      | cons name rest =>
        obtain ⟨below, leads, _⟩ := met.ends
        cases leads
  | @directory entries distinct named below ih =>
    by_cases accepted : FileSystem.refusal? (path.joinAll above) = none
    · rw [filesBelow_of_opened (openedAt?_eq_some_iff.2 ⟨rfl, accepted⟩), mem_filesOf]
      constructor
      · intro listed
        obtain ⟨name, child, listed, there⟩ := listed
        obtain ⟨rest, rfl, met⟩ := (ih _ listed).1 there
        exact ⟨name :: rest, by simp, (met_cons_iff distinct accepted).2 ⟨child, listed, met⟩⟩
      · intro met
        obtain ⟨rest, rfl, met⟩ := met
        cases rest with
        -- The directory itself is opened, and so not met.
        | nil => simpa [openedAt?, accepted] using met_nil_iff.1 met
        | cons name rest =>
          obtain ⟨child, listed, met⟩ := (met_cons_iff distinct accepted).1 met
          exact ⟨name, child, listed, (ih _ listed).2 ⟨rest, by simp, met⟩⟩
    · have unopened : openedAt? (path.joinAll above) (.directory entries) = none :=
        openedAt?_eq_none_iff.2 (.inr ⟨⟨entries, rfl⟩, accepted⟩)
      rw [filesBelow_of_unopened unopened, List.mem_singleton]
      constructor
      · intro here
        exact ⟨[], by simpa using here, met_nil_iff.2 unopened⟩
      · intro met
        obtain ⟨rest, rfl, met⟩ := met
        rw [eq_nil_of_met (.directory distinct named below) accepted met, List.append_nil]

/-- No names are listed twice for the files that are met below a well-formed tree. -/
theorem nodup_filesBelow (wellFormed : tree.WellFormed) : (filesBelow path above tree).Nodup := by
  induction wellFormed generalizing above with
  | file text => simp [filesBelow]
  | @directory entries distinct named below ih =>
    rw [filesBelow]
    split
    · clear named
      -- The entries are taken one by one, and each has a name that is not among the later ones.
      induction entries with
      | nil => simp [filesOf]
      | cons entry others ih' =>
        obtain ⟨name, tree⟩ := entry
        rw [List.map_cons, List.nodup_cons] at distinct
        rw [List.forall_mem_cons] at ih below
        rw [filesOf, List.nodup_append']
        refine ⟨ih.1, ih' distinct.2 below.2 ih.2, ?_⟩
        -- Later names go on otherwise.
        intro names here later
        obtain ⟨rest, rfl, _⟩ := (mem_filesBelow below.1).1 here
        obtain ⟨name', tree', listed, there⟩ := mem_filesOf.1 later
        obtain ⟨rest', same, _⟩ := (mem_filesBelow (below.2 _ listed)).1 there
        simp only [List.append_assoc, List.append_cancel_left_eq, List.cons_append, List.nil_append,
          List.cons.injEq] at same
        rw [same.1] at distinct
        exact distinct.1 (List.mem_map.2 ⟨_, listed, rfl⟩)
    · exact List.nodup_singleton _

/-! ### Collecting -/

/-- The names that lead to the files that are met below a directory that is still to be listed. -/
def Pending.files (path : Path) (pending : Pending) : List (List String) :=
  filesOf path pending.1 pending.2

/-- The files that are met below a directory are those that it lists and those below the directories that it lists. -/
theorem filesOf_perm (path : Path) (above : List String) (entries : List (String × FileTree)) :
    (filesOf path above entries).Perm
      (filesAmong path above entries ++ (directoriesAmong path above entries).flatMap (Pending.files path)) := by
  -- A file is listed in its place, and a directory is put off.
  induction entries with
  | nil => exact .nil
  | cons entry rest ih =>
    obtain ⟨name, tree⟩ := entry
    rw [filesOf, filesAmong, directoriesAmong]
    cases opened : openedAt? (path.joinAll (above ++ [name])) tree with
    | none =>
      rw [filesBelow_of_unopened opened]
      exact ih.cons _
    | some inner =>
      rw [filesBelow_of_opened opened, List.flatMap_cons]
      -- What is below the directory comes first on one side, and between the two parts of the rest on the other.
      exact (ih.append_left _).trans (List.perm_append_comm_assoc _ _ _)

/-- What is collected is what was found and all definition files below the stack. -/
theorem collect_perm (path : Path) (found : List (List String)) (stack : List Pending) :
    (collect path found stack).Perm (found ++ (stack.flatMap (Pending.files path)).filter isDefinitionFile) := by
  -- Each turn moves the files of one directory to what was found, and leaves the directories in it on the stack.
  fun_induction collect path found stack with
  | case1 found => simp
  | case2 found above entries rest ih =>
    refine ih.trans ?_
    rw [List.append_assoc, ← List.filter_append]
    refine (List.Perm.filter _ ?_).append_left _
    rw [List.flatMap_append, List.flatMap_cons, ← List.append_assoc]
    -- The order in which the directories are listed later makes no difference.
    have turned := (List.reverse_perm (directoriesAmong path above entries)).flatMap_right (Pending.files path)
    exact ((turned.append_left _).trans (filesOf_perm path above entries).symm).append_right _

/-! ### The order of paths -/

/-- One path comes before another exactly if they are the same or its names are below the other's in lexicographic
order. -/
theorem comesBefore_iff {first second : List String} :
    comesBefore first second = true ↔ first = second ∨ List.Lex (· < ·) first second := by
  -- The cases are those of the comparison: one path ends, or the two first names are equal or not.
  fun_induction comesBefore first second with
  | case1 second =>
    cases second with
    | nil => simp
    | cons name rest => simp
  | case2 name rest =>
    constructor
    · intro before
      cases before
    -- Nothing is below the empty path.
    · intro before
      rcases before with same | less
      · cases same
      · cases less
  | case3 above name below ih =>
    have behind : List.Lex (· < ·) (name :: above) (name :: below) ↔ List.Lex (· < ·) above below := by
      constructor
      · intro less
        cases less with
        | rel same => exact absurd same (String.lt_irrefl name)
        | cons less => exact less
      · exact .cons
    rw [ih, behind, List.cons.injEq]
    simp
  | case4 a above b below apart =>
    rw [decide_eq_true_eq]
    constructor
    · intro less
      exact .inr (.rel less)
    · intro before
      rcases before with same | less
      · exact absurd (List.cons.inj same).1 apart
      · cases less with
        | rel less => exact less
        | cons less => exact absurd rfl apart

/-- Of two paths one comes before the other. -/
theorem comesBefore_total (first second : List String) :
    (comesBefore first second || comesBefore second first) = true := by
  -- The first names that differ decide, and of two different names one is below the other.
  fun_induction comesBefore first second with
  | case1 second => rfl
  | case2 name rest => rfl
  | case3 above name below ih =>
    rw [comesBefore, if_pos rfl]
    exact ih
  | case4 a above b below apart =>
    rw [comesBefore, if_neg (Ne.symm apart)]
    by_cases less : a < b
    · simp [less]
    · simp [Dict.lt_of_not_lt_of_ne less apart]

/-- A path that comes before a second one comes before all that the second comes before. -/
theorem comesBefore_trans (first second third : List String) (before : comesBefore first second = true)
    (before' : comesBefore second third = true) : comesBefore first third = true := by
  -- The first two paths are compared as the function does, and the third is then cut like the second.
  fun_induction comesBefore first second generalizing third with
  | case1 second => rfl
  | case2 name rest => cases before
  | case3 above name below ih =>
    cases third with
    | nil => cases before'
    | cons name' rest =>
      rw [comesBefore] at before' ⊢
      split at before'
      · rename_i same
        rw [if_pos same]
        exact ih rest before before'
      · rename_i apart
        rw [if_neg apart]
        exact before'
  | case4 a above b below apart =>
    cases third with
    | nil => cases before'
    | cons c rest =>
      rw [decide_eq_true_eq] at before
      rw [comesBefore] at before' ⊢
      have less : a < c := by
        split at before'
        · rename_i same
          exact same ▸ before
        · exact String.lt_trans before (of_decide_eq_true before')
      -- A name that is below another is not the same.
      rw [if_neg (String.ne_of_lt less)]
      exact decide_eq_true less

/-- Paths that come before each other are the same. -/
theorem comesBefore_antisymm {first second : List String} (before : comesBefore first second = true)
    (after : comesBefore second first = true) : first = second := by
  fun_induction comesBefore first second with
  | case1 second =>
    cases second with
    | nil => rfl
    | cons name rest => cases after
  | case2 name rest => cases before
  | case3 above name below ih =>
    rw [comesBefore, if_pos rfl] at after
    rw [ih before after]
  | case4 a above b below apart =>
    rw [comesBefore, if_neg (Ne.symm apart), decide_eq_true_eq] at after
    -- Two names are not below each other.
    exact absurd after (String.lt_asymm (of_decide_eq_true before))

/-! ### Definition files -/

/-- A file is a definition file exactly if its name has the extension. -/
theorem isDefinitionFile_iff : isDefinitionFile names = true ↔ HasDefinitionExtension names := by
  -- The extension is what stands behind the last dot of the last name.
  unfold isDefinitionFile HasDefinitionExtension
  cases names.getLast? with
  | none => simp
  | some name =>
    dsimp only
    rw [Option.any_eq_true]
    constructor
    · intro ends
      obtain ⟨extension, cut, same⟩ := ends
      obtain ⟨stem, nonempty, undotted, parts⟩ := Path.cutExtension_eq_some_iff.1 cut
      exact ⟨stem, extension, nonempty, undotted, of_decide_eq_true same, congrArg some parts⟩
    -- The cut at the last dot is the only one of its kind.
    · intro parts
      obtain ⟨stem, extension, nonempty, undotted, same, parts⟩ := parts
      have cut := Path.cutExtension_eq_some_iff.2 ⟨stem, nonempty, undotted, Option.some.inj parts⟩
      exact ⟨extension, cut, decide_eq_true same⟩

/-- The definition files below a tree are the files that are met below it and have the extension. -/
theorem definitionFiles_perm (accepted : FileSystem.refusal? path = none) (tree : FileTree) :
    (tree.definitionFiles path).Perm ((filesBelow path [] tree).filter isDefinitionFile) := by
  cases tree with
  -- A tree that is a file is met, but under no name that could have the extension.
  | file text => exact .nil
  | directory entries =>
    refine (List.mergeSort_perm _ _).trans ((collect_perm path [] [([], entries)]).trans ?_)
    have opened : filesBelow path [] (.directory entries) = filesOf path [] entries :=
      filesBelow_of_opened (openedAt?_eq_some_iff.2 ⟨rfl, accepted⟩)
    rw [List.nil_append, List.flatMap_singleton, opened]
    exact .refl _

/-- Definition files are the files that are met and have the extension. -/
theorem mem_definitionFiles (wellFormed : tree.WellFormed) (accepted : FileSystem.refusal? path = none) :
    names ∈ tree.definitionFiles path ↔ Met path [] tree names ∧ HasDefinitionExtension names := by
  -- The collected files are those below the path, and a test on their names is made on each.
  rw [(definitionFiles_perm accepted tree).mem_iff, List.mem_filter, mem_filesBelow wellFormed, isDefinitionFile_iff]
  simp

/-- No definition file is listed twice. -/
theorem nodup_definitionFiles (wellFormed : tree.WellFormed) (accepted : FileSystem.refusal? path = none) :
    (tree.definitionFiles path).Nodup :=
  -- The listing is a permutation of the files below that are definition files.
  (definitionFiles_perm accepted tree).nodup_iff.2 ((nodup_filesBelow wellFormed).filter _)

/-- Definition files are listed in the order of paths. -/
theorem pairwise_comesBefore_definitionFiles (path : Path) (tree : FileTree) :
    (tree.definitionFiles path).Pairwise fun first second => comesBefore first second = true := by
  -- Sorting by a total and transitive order gives a list in that order.
  cases tree with
  | file text => exact .nil
  | directory entries => exact List.pairwise_mergeSort comesBefore_trans comesBefore_total _

/-- Definition files are listed in strict lexicographic order of their names. -/
theorem pairwise_definitionFiles (wellFormed : tree.WellFormed) (accepted : FileSystem.refusal? path = none) :
    (tree.definitionFiles path).Pairwise (List.Lex (· < ·)) := by
  -- Sorting puts none before an earlier one, and distinct paths that come in order come in strict order.
  refine (pairwise_comesBefore_definitionFiles path tree).imp₂ ?_ (nodup_definitionFiles wellFormed accepted)
  intro first second before apart
  exact (comesBefore_iff.1 before).resolve_left apart

/-- The same names are met from a tree on that is listed again. -/
theorem Relists.met_iff (relists : tree.Relists other) (wellFormed : tree.WellFormed) :
    Met path above other names ↔ Met path above tree names := by
  -- The names lead to nothing, to one file, or to a directory whose entries do not matter here.
  have same : (∃ below, other.descend? names = some below ∧ openedAt? (path.joinAll (above ++ names)) below = none) ↔
      ∃ below, tree.descend? names = some below ∧ openedAt? (path.joinAll (above ++ names)) below = none := by
    rcases relists.descend?_cases wellFormed names with
      ⟨here, here'⟩ | ⟨text, here, here'⟩ | ⟨entries, others, here, here', _⟩
    · rw [here, here']
    · rw [here, here']
    · simp [here, here', openedAt?]
  constructor
  · intro met
    exact ⟨same.1 met.ends, met.opened⟩
  · intro met
    exact ⟨same.2 met.ends, met.opened⟩

/-- The same definition files are listed in the same order for a tree that is listed again. -/
theorem Relists.definitionFiles (relists : tree.Relists other) (wellFormed : tree.WellFormed)
    (accepted : FileSystem.refusal? path = none) : other.definitionFiles path = tree.definitionFiles path := by
  have wellFormed' := relists.wellFormed wellFormed
  have same : (other.definitionFiles path).Perm (tree.definitionFiles path) := by
    rw [List.perm_ext_iff_of_nodup (nodup_definitionFiles wellFormed' accepted)
      (nodup_definitionFiles wellFormed accepted)]
    intro names
    rw [mem_definitionFiles wellFormed' accepted, mem_definitionFiles wellFormed accepted, relists.met_iff wellFormed]
  -- Sorting brings the two lists to one order.
  exact same.eq_of_pairwise (fun _ _ _ _ => comesBefore_antisymm) (pairwise_comesBefore_definitionFiles path other)
    (pairwise_comesBefore_definitionFiles path tree)

end FileTree

end ShadeBake

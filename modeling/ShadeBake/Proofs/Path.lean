import ShadeBake.Path
import ShadeBake.Proofs.Text.Pieces

/-! Joined paths have the components of both, and the extension of a name is what is behind its last dot. -/

namespace ShadeBake

namespace Path

/-- A text that is a component of its own: without slashes, and nothing that a path skips or climbs at. -/
structure IsName (name : String) : Prop where
  nonempty : name ≠ ""
  notCurrent : name ≠ "."
  notParent : name ≠ ".."
  undivided : '/' ∉ name.toList

instance (name : String) : Decidable (IsName name) :=
  decidable_of_iff (name ≠ "" ∧ name ≠ "." ∧ name ≠ ".." ∧ '/' ∉ name.toList)
    ⟨fun ⟨nonempty, notCurrent, notParent, undivided⟩ => ⟨nonempty, notCurrent, notParent, undivided⟩,
      fun ⟨nonempty, notCurrent, notParent, undivided⟩ => ⟨nonempty, notCurrent, notParent, undivided⟩⟩

variable {path name : String}

/-- A name makes a component. -/
theorem IsName.componentOf (isName : IsName name) : componentOf name.toList = some (.name name) := by
  -- The first three patterns are the texts that a name is not.
  have apart (other : String) (differs : name ≠ other) : name.toList ≠ other.toList :=
    fun same => differs (String.toList_injective same)
  unfold Path.componentOf
  split
  · rename_i empty
    exact absurd empty (apart "" isName.nonempty)
  · rename_i dot
    exact absurd dot (apart "." isName.notCurrent)
  · rename_i dots
    exact absurd dots (apart ".." isName.notParent)
  · rw [String.ofList_toList]

/-- A name is no absolute path. -/
theorem IsName.isAbsolute (isName : IsName name) : isAbsolute name = false := by
  -- An absolute path begins with a slash, which no name has in it.
  unfold Path.isAbsolute
  rw [decide_eq_false_iff_not]
  intro begins
  exact isName.undivided (List.mem_of_head? begins)

/-- A text that is cut at slashes has the pieces of what is before a slash, and then those of what is behind it. -/
theorem splitOn_append_slash (front back : List Char) :
    Text.splitOn (· = '/') (front ++ '/' :: back) = Text.splitOn (· = '/') front ++ Text.splitOn (· = '/') back :=
  -- The slash between the two is a cut.
  Text.splitOn_append_cut (by simp) front back

/-- A name goes on from a path behind one slash, and is the last piece then. -/
theorem exists_pieces_join (nonempty : path ≠ "") (isName : IsName name) :
    ∃ front last, path.toList = front ++ last ∧ (last = ['/'] ∨ last = []) ∧
      (join path name).toList = front ++ '/' :: name.toList ∧
      pieces (join path name) = Text.splitOn (· = '/') front ++ [name.toList] := by
  -- A slash is put between the two unless the path ends in one, so the name is the last piece.
  have whole : Text.splitOn (· = '/') name.toList = [name.toList] := by
    apply Text.splitOn_of_uncut
    intro c inside
    rw [decide_eq_false_iff_not]
    exact fun same => isName.undivided (same ▸ inside)
  have joined : ∃ front last, path.toList = front ++ last ∧ (last = ['/'] ∨ last = []) ∧
      (join path name).toList = front ++ '/' :: name.toList := by
    unfold join
    rw [if_neg (by simp [isName.isAbsolute])]
    rcases List.eq_nil_or_concat path.toList with empty | ⟨front, last, chars⟩
    · exact absurd (String.toList_injective empty) nonempty
    · rw [List.concat_eq_append] at chars
      by_cases slash : last = '/'
      -- A slash at the end of the path is the one.
      · subst slash
        rw [if_pos (by simp [chars])]
        exact ⟨front, ['/'], chars, .inl rfl, by simp [chars]⟩
      · rw [if_neg (by simp [chars, slash])]
        exact ⟨path.toList, [], by simp, .inr rfl, by simp⟩
  obtain ⟨front, last, chars, slash, joined⟩ := joined
  refine ⟨front, last, chars, slash, joined, ?_⟩
  rw [pieces, joined, splitOn_append_slash, whole]

/-- The components of a path that goes on at a name are those of the path, and the name. -/
theorem components_join (nonempty : path ≠ "") (isName : IsName name) :
    components (join path name) = components path ++ [.name name] := by
  obtain ⟨front, last, chars, slash, joined, parts⟩ := exists_pieces_join nonempty isName
  have absolute : isAbsolute (join path name) = isAbsolute path := by
    unfold isAbsolute
    rw [chars, joined]
    cases front with
    | cons c rest => rfl
    | nil =>
      rcases slash with rfl | rfl
      · rfl
      · exact absurd (String.toList_injective chars) nonempty
  unfold components
  rw [parts, pieces, chars]
  cases before : Text.splitOn (· = '/') front with
  | nil => exact absurd before (Text.splitOn_ne_nil _ front)
  | cons first rest =>
    have first' : firstComponent (join path name) first = firstComponent path first := by
      unfold firstComponent
      rw [absolute]
    -- The first piece stays the first, and the name comes last.
    rw [List.cons_append]
    dsimp only
    rw [List.filterMap_append, first', List.filterMap_cons_some isName.componentOf, List.filterMap_nil]
    -- A slash at the end of the path leaves an empty piece, which makes no component.
    rcases slash with rfl | rfl
    · rw [splitOn_append_slash, before]
      simp [Text.splitOn, componentOf]
    · rw [List.append_nil, before]
      simp

/-- A path that goes on at a name is not empty. -/
theorem join_ne_empty (nonempty : path ≠ "") (isName : IsName name) : join path name ≠ "" := by
  -- The joined path ends in the name behind a slash.
  obtain ⟨front, last, chars, slash, joined, parts⟩ := exists_pieces_join nonempty isName
  intro empty
  rw [empty] at joined
  simp at joined

/-- A path that goes on at a name is the path, perhaps a slash, and the name. -/
theorem exists_append_join (directory : Path) (isName : IsName name) :
    ∃ between, join directory name = directory ++ between ++ name := by
  -- A name never stands alone.
  unfold join
  rw [if_neg (by simp [isName.isAbsolute])]
  split
  · exact ⟨"", by simp⟩
  · exact ⟨"/", rfl⟩

/-- A path goes on at two lists of names in a row as at both together. -/
theorem joinAll_append (directory : Path) (names others : List String) :
    directory.joinAll (names ++ others) = (directory.joinAll names).joinAll others :=
  -- The names are joined one after the other.
  List.foldl_append

/-- The components of a path that goes on at names are those of the path, and the names. -/
theorem components_joinAll (nonempty : path ≠ "") {names : List String}
    (named : ∀ name ∈ names, IsName name) :
    components (joinAll path names) = components path ++ names.map .name := by
  unfold joinAll
  -- Each name adds its own component at the end.
  induction names generalizing path with
  | nil => simp
  | cons name rest ih =>
    rw [List.forall_mem_cons] at named
    rw [List.foldl_cons, ih (join_ne_empty nonempty named.1) named.2, components_join nonempty named.1]
    simp

/-- The last piece of a path that goes on at names is the last of them. -/
theorem getLast?_pieces_joinAll (nonempty : path ≠ "") {names : List String}
    (named : ∀ name ∈ names, IsName name) {last : String} (ends : names.getLast? = some last) :
    (pieces (joinAll path names)).getLast? = some last.toList := by
  unfold joinAll
  -- Only the last name counts, since the path that it goes on from is not empty either.
  induction names generalizing path with
  | nil => cases ends
  | cons name rest ih =>
    rw [List.forall_mem_cons] at named
    rw [List.foldl_cons]
    cases rest with
    -- A single name is the last piece of what it is joined to.
    | nil =>
      cases ends
      obtain ⟨front, _, _, _, _, parts⟩ := exists_pieces_join nonempty named.1
      rw [List.foldl_nil, parts]
      simp
    | cons next others =>
      rw [List.getLast?_cons_cons] at ends
      exact ih (join_ne_empty nonempty named.1) named.2 ends

/-- A slash at the end of a path makes no component. -/
theorem components_append_slash (nonempty : path ≠ "") : components (path ++ "/") = components path := by
  -- The slash at the end adds an empty piece, which is no component.
  have chars : (path ++ "/").toList = path.toList ++ ['/'] := by simp
  have absolute : isAbsolute (path ++ "/") = isAbsolute path := by
    unfold isAbsolute
    rw [chars]
    cases begin : path.toList with
    | nil => exact absurd (String.toList_injective begin) nonempty
    | cons first rest => rfl
  unfold components
  rw [pieces, chars, splitOn_append_slash, pieces]
  cases before : Text.splitOn (· = '/') path.toList with
  | nil => exact absurd before (Text.splitOn_ne_nil _ _)
  | cons first rest =>
    have first' : firstComponent (path ++ "/") first = firstComponent path first := by
      unfold firstComponent
      rw [absolute]
    -- Behind the slash is one more piece, which is empty.
    rw [List.cons_append]
    dsimp only
    rw [List.filterMap_append, first']
    simp [Text.splitOn, componentOf]

/-! ### Extensions -/

/-- A name that is cut at its last dot has as its extension what is behind the dot, unless the dot begins the name. -/
theorem cutExtension_of_split {front back : List Char} (chars : name.toList = front ++ '.' :: back)
    (undotted : '.' ∉ back) :
    (cutExtension name).2 = if front = [] then none else some (String.ofList back) := by
  -- Reading from the end stops at the last dot, which is this one as none follows.
  have plain : ∀ c ∈ back.reverse, decide (c ≠ '.') = true := by
    intro c inside
    rw [decide_eq_true_eq]
    exact fun dot => undotted (dot ▸ List.mem_reverse.1 inside)
  have turned : name.toList.reverse = back.reverse ++ '.' :: front.reverse := by simp [chars]
  unfold cutExtension
  rw [turned, List.takeWhile_append_of_pos plain, List.dropWhile_append_of_pos plain,
    List.takeWhile_cons_of_neg (by simp), List.dropWhile_cons_of_neg (by simp), List.append_nil,
    List.reverse_reverse]
  rcases List.eq_nil_or_concat front with rfl | ⟨others, last, rfl⟩
  · rfl
  · simp

/-- The extension of a name is what is behind its last dot, where something is in front of that dot. -/
theorem cutExtension_eq_some_iff {extension : String} :
    (cutExtension name).2 = some extension ↔
      ∃ stem, stem ≠ "" ∧ '.' ∉ extension.toList ∧ name = stem ++ "." ++ extension := by
  -- The name has a last dot or none, and the extension is what stands behind it.
  constructor
  · intro cut
    by_cases dotted : '.' ∈ name.toList.reverse
    · obtain ⟨back, front, turned, undotted⟩ := List.eq_append_cons_of_mem dotted
      have chars : name.toList = front.reverse ++ '.' :: back.reverse := by
        rw [← List.reverse_reverse name.toList, turned]
        simp
      rw [cutExtension_of_split chars (by simpa using undotted)] at cut
      split at cut
      · cases cut
      -- A name that begins with its only dot is hidden and has no extension.
      · rename_i visible
        cases cut
        refine ⟨String.ofList front.reverse, ?_, by simpa using undotted, ?_⟩
        · intro empty
          exact visible (by simpa using congrArg String.toList empty)
        · apply String.toList_injective
          simp [chars]
    -- Without a dot nothing is left after what is in front of the first one.
    · have plain : ∀ c ∈ name.toList.reverse, decide (c ≠ '.') = true := by
        intro c inside
        rw [decide_eq_true_eq]
        exact fun dot => dotted (dot ▸ inside)
      have nothing : name.toList.reverse.dropWhile (· ≠ '.') = [] := by
        rw [← List.append_nil name.toList.reverse, List.dropWhile_append_of_pos plain]
        rfl
      unfold cutExtension at cut
      rw [nothing] at cut
      cases cut
  · intro parts
    obtain ⟨stem, nonempty, undotted, rfl⟩ := parts
    have chars : (stem ++ "." ++ extension).toList = stem.toList ++ '.' :: extension.toList := by simp
    have visible : stem.toList ≠ [] := fun empty => nonempty (String.toList_injective empty)
    rw [cutExtension_of_split chars undotted, if_neg visible, String.ofList_toList]

end Path

end ShadeBake

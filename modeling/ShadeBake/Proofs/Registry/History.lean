import ShadeBake.Proofs.Registry.Register
import ShadeBake.Registry.Form

/-! The look-ups of a registry tell its history: of entries with one identifier and source type the last that was
inserted is held, and of those held for an identifier the one that was inserted first is found. -/

namespace ShadeBake

/-- Two entries compete when they have one identifier and source type. -/
def ShaderEntry.Competes (entry other : ShaderEntry) : Prop :=
  entry.identifier = other.identifier ∧ entry.sourceType = other.sourceType

instance (entry other : ShaderEntry) : Decidable (entry.Competes other) :=
  inferInstanceAs (Decidable (_ ∧ _))

namespace Registry

/-! ### Insertions in order -/

/-- The entries of a history that nothing later competes with, in order. -/
def standing : List ShaderEntry → List ShaderEntry
  | [] => []
  | entry :: later =>
    -- An entry that is inserted again counts from the last time on.
    if ∃ other ∈ later, other.Competes entry then standing later else entry :: standing later

/-- An entry stands at its place in a history when nothing later competes with it. -/
def Stands (history : List ShaderEntry) (place : Nat) (entry : ShaderEntry) : Prop :=
  history[place]? = some entry ∧ ∀ other ∈ history.drop (place + 1), ¬other.Competes entry

/-- What stands in a history was inserted. -/
theorem standing_subset {history : List ShaderEntry} : ∀ entry ∈ standing history, entry ∈ history := by
  -- An entry is kept or left out, and none is made.
  induction history with
  | nil => exact fun entry member => member
  | cons first later ih =>
    intro entry member
    simp only [standing] at member
    split at member
    · exact List.mem_cons_of_mem _ (ih entry member)
    · rcases List.mem_cons.1 member with same | behind
      · exact same ▸ List.mem_cons_self
      · exact List.mem_cons_of_mem _ (ih entry behind)

/-- No two entries that stand compete. -/
theorem standing_pairwise (history : List ShaderEntry) :
    (standing history).Pairwise fun earlier later => ¬later.Competes earlier := by
  induction history with
  | nil => exact List.Pairwise.nil
  | cons first later ih =>
    simp only [standing]
    split
    · exact ih
    -- The first entry stands as nothing later competes with it, and the rest was inserted later.
    · rename_i alone
      refine List.pairwise_cons.2 ⟨fun other stands competes => ?_, ih⟩
      exact alone ⟨other, standing_subset other stands, competes⟩

/-- One more insertion drops the entries that it competes with and stands last. -/
theorem standing_append (history : List ShaderEntry) (entry : ShaderEntry) :
    standing (history ++ [entry]) =
      (standing history).filter (fun old => ¬old.Competes entry) ++ [entry] := by
  -- By induction on the history, as what stands is decided from the front.
  induction history with
  | nil => simp [standing]
  | cons first later ih =>
    simp only [List.cons_append, standing, ih]
    -- The first entry falls to one of the old ones or to the new one, or it stays.
    by_cases older : ∃ other ∈ later, other.Competes first
    · have still : ∃ other ∈ later ++ [entry], other.Competes first := by
        obtain ⟨other, inside, competes⟩ := older
        exact ⟨other, List.mem_append_left _ inside, competes⟩
      rw [if_pos still, if_pos older]
    · rw [if_neg older]
      by_cases newer : first.Competes entry
      · have replaced : ∃ other ∈ later ++ [entry], other.Competes first :=
          ⟨entry, List.mem_append_right _ (List.mem_singleton.2 rfl), newer.1.symm, newer.2.symm⟩
        rw [if_pos replaced, List.filter_cons_of_neg (by simpa using newer)]
      · have stays : ¬∃ other ∈ later ++ [entry], other.Competes first := by
          rintro ⟨other, inside, competes⟩
          rcases List.mem_append.1 inside with old | new
          · exact older ⟨other, old, competes⟩
          · cases List.mem_singleton.1 new
            exact newer ⟨competes.1.symm, competes.2.symm⟩
        rw [if_neg stays, List.filter_cons_of_pos (by simpa using newer), List.cons_append]

/-- A registry that holds what stands in a history holds what stands in the longer one after further entries
are inserted. -/
theorem entries_insertAll {registry : Registry} {history : List ShaderEntry}
    (held : registry.entries = standing history) (entries : List ShaderEntry) :
    (registry.insertAll entries).entries = standing (history ++ entries) := by
  unfold insertAll
  induction entries generalizing registry history with
  | nil => simpa using held
  | cons entry rest ih =>
    -- The entry that is inserted first belongs to the history of those after it.
    have step : (registry.insert entry).entries = standing (history ++ [entry]) := by
      rw [standing_append, ← held]
      rfl
    rw [List.foldl_cons, ih step, List.append_assoc, List.singleton_append]

/-- Behind a first insertion all places move up by one. -/
theorem stands_succ_iff {first : ShaderEntry} {later : List ShaderEntry} {place : Nat}
    {entry : ShaderEntry} : Stands (first :: later) (place + 1) entry ↔ Stands later place entry := by
  -- The first entry stands before the place and has no say in it.
  simp [Stands]

/-- A first insertion stands exactly if nothing later competes with it. -/
theorem stands_zero_iff {first : ShaderEntry} {later : List ShaderEntry} {entry : ShaderEntry} :
    Stands (first :: later) 0 entry ↔ first = entry ∧ ¬∃ other ∈ later, other.Competes first := by
  -- Behind the first entry are all the others.
  simp only [Stands, List.getElem?_cons_zero, Option.some.injEq, List.drop_succ_cons, List.drop_zero,
    not_exists, not_and]
  constructor
  · rintro ⟨rfl, alone⟩
    exact ⟨rfl, alone⟩
  · rintro ⟨rfl, alone⟩
    exact ⟨rfl, alone⟩

/-- The entries that stand are those that stand at some place. -/
theorem mem_standing_iff {history : List ShaderEntry} {entry : ShaderEntry} :
    entry ∈ standing history ↔ ∃ place, Stands history place entry := by
  induction history with
  | nil => simp [standing, Stands]
  | cons first later ih =>
    -- An entry stands in front, or at a place behind.
    have split : (∃ place, Stands (first :: later) place entry) ↔
        (first = entry ∧ ¬∃ other ∈ later, other.Competes first) ∨ ∃ place, Stands later place entry := by
      constructor
      · rintro ⟨place, stands⟩
        cases place with
        | zero => exact .inl (stands_zero_iff.1 stands)
        | succ place => exact .inr ⟨place, stands_succ_iff.1 stands⟩
      · rintro (front | ⟨place, stands⟩)
        · exact ⟨0, stands_zero_iff.2 front⟩
        · exact ⟨place + 1, stands_succ_iff.2 stands⟩
    rw [split, ← ih]
    simp only [standing]
    -- The first entry is listed unless a later one replaces it.
    by_cases replaced : ∃ other ∈ later, other.Competes first
    · simp [replaced]
    · simp [replaced, eq_comm]

/-- Of the entries of an identifier that stand, the first is the one with the least place. -/
theorem find?_standing_iff {history : List ShaderEntry} {identifier : String} {entry : ShaderEntry} :
    (standing history).find? (·.identifier = identifier) = some entry ↔
      ∃ place, Stands history place entry ∧ entry.identifier = identifier ∧
        ∀ other place', Stands history place' other → other.identifier = identifier → place ≤ place' := by
  induction history with
  | nil => simp [standing, Stands]
  | cons first later ih =>
    by_cases front : first.identifier = identifier ∧ ¬∃ other ∈ later, other.Competes first
    -- The first insertion stands and has the identifier, so no place is less.
    · obtain ⟨named, alone⟩ := front
      have found : (standing (first :: later)).find? (·.identifier = identifier) = some first := by
        simp [standing, alone, named]
      rw [found, Option.some.injEq]
      constructor
      · rintro rfl
        exact ⟨0, stands_zero_iff.2 ⟨rfl, alone⟩, named, fun _ _ _ _ => Nat.zero_le _⟩
      · rintro ⟨place, stands, _, least⟩
        cases Nat.le_zero.1 (least first 0 (stands_zero_iff.2 ⟨rfl, alone⟩) named)
        exact (stands_zero_iff.1 stands).1
    -- It is replaced or has another identifier, so what is found is found behind it.
    · have behind : (standing (first :: later)).find? (·.identifier = identifier) =
          (standing later).find? (·.identifier = identifier) := by
        simp only [standing]
        split
        · rfl
        · rename_i alone
          have other : first.identifier ≠ identifier := fun named => front ⟨named, alone⟩
          simp [other]
      rw [behind, ih]
      constructor
      · rintro ⟨place, stands, named, least⟩
        refine ⟨place + 1, stands_succ_iff.2 stands, named, fun other place' stands' named' => ?_⟩
        cases place' with
        | zero =>
          obtain ⟨rfl, alone⟩ := stands_zero_iff.1 stands'
          exact absurd ⟨named', alone⟩ front
        | succ place' => exact Nat.succ_le_succ (least other place' (stands_succ_iff.1 stands') named')
      · rintro ⟨place, stands, named, least⟩
        cases place with
        | zero =>
          obtain ⟨rfl, alone⟩ := stands_zero_iff.1 stands
          exact absurd ⟨named, alone⟩ front
        | succ place =>
          refine ⟨place, stands_succ_iff.1 stands, named, fun other place' stands' named' => ?_⟩
          exact Nat.le_of_succ_le_succ (least other (place' + 1) (stands_succ_iff.2 stands') named')

/-! ### Operations -/

/-- What can be done to a registry: an entry is inserted, a text or a file is merged, or a compiled shader is
registered. -/
inductive Operation where
  | insert (entry : ShaderEntry)
  | merge (text : String)
  | mergeFile (files : FileSystem) (path : Path)
  | register (path : Path) (content : Except ReadFailure String) (metadata : Dict String)
    (subIdentifier sourceType : String)

namespace Operation

/-- The registry after an operation, if that succeeds. -/
def run? (registry : Registry) : Operation → Option Registry
  | insert entry => some (registry.insert entry)
  | merge text => (registry.merge? text).map (·.2)
  | mergeFile files path => (registry.mergeFile files path).toOption.map (·.2)
  | register path content metadata subIdentifier sourceType =>
    (registry.register path content metadata subIdentifier sourceType).toOption.map (·.2)

/-- The entries that an operation inserts, in order, if it succeeds. They do not depend on a registry. -/
def entries? : Operation → Option (List ShaderEntry)
  | insert entry => some [entry]
  | merge text => entriesOfText? text
  | mergeFile files path => (files.read path).toOption.bind entriesOfText?
  | register path content metadata subIdentifier sourceType =>
    (entryOf path content metadata subIdentifier sourceType).toOption.map fun entry => [entry]

/-- An operation fails over a file that cannot be read, a text that writes no entries, the text of a compiled
shader that is malformed, or a path without a file name. -/
def Fails : Operation → Prop
  | insert _ => False
  | merge text => entriesOfText? text = none
  | mergeFile files path =>
    (∃ failure, files.read path = .error failure) ∨
      ∃ text, files.read path = .ok text ∧ entriesOfText? text = none
  | register path content _ _ _ =>
    (∃ failure, content = .error failure) ∨
      (∃ text cause, content = .ok text ∧ Artifact.ofText text = .error cause) ∨ Path.stem? path = none

/-- An operation inserts all of its entries in order, or fails. -/
theorem run?_eq (registry : Registry) (operation : Operation) :
    operation.run? registry = operation.entries?.map registry.insertAll := by
  cases operation with
  | insert entry => rfl
  | merge text =>
    simp only [run?, entries?, merge?, Option.map_map]
    rfl
  | mergeFile files path =>
    simp only [run?, entries?, Registry.mergeFile, merge?]
    cases files.read path with
    | error failure => rfl
    | ok text =>
      -- The text of a file is merged as any other.
      cases written : entriesOfText? text with
      | none => simp [Except.toOption, written]
      | some entries => simp [Except.toOption, written]
  -- A registration inserts one entry or fails.
  | register path content metadata subIdentifier sourceType =>
    simp only [run?, entries?, Registry.register]
    cases entryOf path content metadata subIdentifier sourceType with
    | error cause => rfl
    | ok entry => rfl

/-- The operations without entries are those that fail. -/
theorem entries?_eq_none_iff (operation : Operation) : operation.entries? = none ↔ operation.Fails := by
  cases operation with
  -- An insertion always succeeds.
  | insert entry => simp [entries?, Fails]
  | merge text => rfl
  | mergeFile files path =>
    simp only [entries?, Fails]
    cases files.read path with
    | error failure => simp [Except.toOption]
    | ok text => simp [Except.toOption]
  | register path content metadata subIdentifier sourceType =>
    simp only [entries?, Fails, entryOf, Option.map_eq_none_iff]
    -- The content is read first, then its text, and the path last.
    cases content with
    | error failure => simp [Except.toOption]
    | ok text =>
      cases declared : Artifact.ofText text with
      | error cause => simp [Except.toOption, declared]
      | ok artifact =>
        cases stem : Path.stem? path with
        | none => simp [Except.toOption, declared]
        | some identifier => simp [Except.toOption, declared]

end Operation

/-- The registry after an operation; one that fails leaves it as it was. -/
def perform (registry : Registry) (operation : Operation) : Registry :=
  (operation.run? registry).getD registry

/-- The registry after operations in order, empty at first. -/
def after (operations : List Operation) : Registry :=
  operations.foldl perform empty

/-- The entries that operations insert, in order. -/
def inserted (operations : List Operation) : List ShaderEntry :=
  operations.flatMap fun operation => operation.entries?.getD []

/-- An operation inserts its entries, of which there are none where it fails. -/
theorem perform_eq (registry : Registry) (operation : Operation) :
    registry.perform operation = registry.insertAll (operation.entries?.getD []) := by
  -- An operation that fails gives no entries and leaves the registry.
  unfold perform
  rw [Operation.run?_eq]
  cases operation.entries? with
  | none => rfl
  | some entries => rfl

/-- The last operation is performed on what the others left. -/
theorem after_concat (operations : List Operation) (operation : Operation) :
    after (operations ++ [operation]) = (after operations).perform operation := by
  -- The last operation acts on what the others leave.
  simp only [after, List.foldl_append, List.foldl_cons, List.foldl_nil]

/-- A registry that started empty is told by the entries inserted since. -/
theorem after_eq (operations : List Operation) : after operations = empty.insertAll (inserted operations) := by
  unfold after inserted
  -- Whatever was there before, the operations insert their entries behind it.
  generalize empty = registry
  induction operations generalizing registry with
  | nil => rfl
  | cons operation rest ih =>
    rw [List.foldl_cons, ih, perform_eq, List.flatMap_cons]
    simp only [insertAll, List.foldl_append]

/-- The look-ups after any history. No two entries are held for one identifier and source type, and the last
inserted of them is found under both; those held are the entries that nothing later competes with, and of
those held for an identifier the one inserted first is found. An operation that fails changes no look-up, and
it is known which ones fail. -/
theorem lookups_after (operations : List Operation) :
    let registry := after operations
    let history := inserted operations
    (registry.entries.Pairwise fun entry other => ¬other.Competes entry) ∧
    (∀ entry, entry ∈ registry.entries ↔ ∃ place, Stands history place entry) ∧
    (∀ identifier sourceType, registry.findTyped? identifier sourceType =
      history.reverse.find? fun entry => entry.identifier = identifier && entry.sourceType = sourceType) ∧
    (∀ identifier entry, registry.find? identifier = some entry ↔
      ∃ place, Stands history place entry ∧ entry.identifier = identifier ∧
        ∀ other place', Stands history place' other → other.identifier = identifier → place ≤ place') ∧
    ∀ operation : Operation, (operation.run? registry = none ↔ operation.Fails) ∧
      (operation.run? registry = none →
        (∀ identifier, (after (operations ++ [operation])).find? identifier = registry.find? identifier) ∧
        ∀ identifier sourceType, (after (operations ++ [operation])).findTyped? identifier sourceType =
          registry.findTyped? identifier sourceType) := by
  intro registry history
  have held : registry.entries = standing history := by
    -- The registry starts with nothing, as does the history.
    have start : empty.entries = standing [] := rfl
    have grown := entries_insertAll start history
    rwa [← after_eq] at grown
  refine ⟨?_, ?_, ?_, ?_, ?_⟩
  · rw [held]
    exact standing_pairwise history
  · intro entry
    rw [held]
    exact mem_standing_iff
  -- Nothing is found in the empty registry, so what is found was inserted.
  · intro identifier sourceType
    have found := findTyped?_insertAll empty history identifier sourceType
    rw [← after_eq] at found
    exact found.trans (Option.or_none ..)
  · intro identifier entry
    unfold find?
    rw [held]
    exact find?_standing_iff
  · intro operation
    refine ⟨?_, fun failed => ?_⟩
    · rw [Operation.run?_eq, Option.map_eq_none_iff]
      exact operation.entries?_eq_none_iff
    -- A registry that an operation fails on stays the same as a whole.
    · have unchanged : after (operations ++ [operation]) = registry := by
        rw [after_concat, perform, failed]
        rfl
      rw [unchanged]
      exact ⟨fun _ => rfl, fun _ _ => rfl⟩

end Registry

end ShadeBake

import ShadeBake.Proofs.Success
import ShadeBake.Registry.Basic

/-! A registered shader is found again under its identifier, which is never empty, and no identifier gets
lost. -/

namespace ShadeBake

namespace Path

/-- Only a piece with characters makes a name, and it makes a name with characters. -/
theorem componentOf_name {piece : List Char} {text : String}
    (made : componentOf piece = some (.name text)) : text ≠ "" := by
  unfold componentOf at made
  -- The empty piece and the two kinds of dots make no names.
  split at made
  · simp at made
  · simp at made
  · simp at made
  · rename_i empty _ _
    simp only [Option.some.injEq, Component.name.injEq] at made
    rw [← made]
    simpa using empty

/-- A component that is a name has characters. -/
theorem name_ne_empty {path : Path} {text : String} (member : .name text ∈ components path) :
    text ≠ "" := by
  unfold components at member
  split at member
  · simp at member
  · rename_i first rest _
    rcases List.mem_append.1 member with head | tail
    -- The first piece makes a name in the same way as the others, if it makes one.
    · rw [Option.mem_toList] at head
      unfold firstComponent at head
      split at head
      · split at head
        · simp at head
        · simp at head
      · simp at head
      · exact componentOf_name head
    -- A later piece makes a name only if it has text.
    · obtain ⟨piece, _, made⟩ := List.mem_filterMap.1 tail
      exact componentOf_name made

/-- A name that is cut at a dot has something in front of the dot. -/
theorem cutExtension_ne_empty {name : String} (nonempty : name ≠ "") : (cutExtension name).1 ≠ "" := by
  -- What is cut leaves at least the first character, and otherwise nothing is cut.
  unfold cutExtension
  split
  · simp
  · exact nonempty

/-- The stem of a path is not empty. -/
theorem stem?_ne_empty {path : Path} {stem : String} (found : stem? path = some stem) : stem ≠ "" := by
  unfold stem? at found
  obtain ⟨name, named, rfl⟩ := Option.map_eq_some_iff.1 found
  refine cutExtension_ne_empty ?_
  -- The last component is one of the components.
  unfold fileName? at named
  split at named
  · rename_i text last
    simp only [Option.some.injEq] at named
    exact named ▸ name_ne_empty (List.mem_of_getLast? last)
  · simp at named

end Path

namespace Artifact

/-- No word of a line is empty. -/
theorem Line.word_ne_empty {text : List Char} {line : Line} (reads : Line.ofText? text = some line)
    {word : String} (inside : word ∈ line.rest) : word ≠ "" := by
  unfold Line.ofText? at reads
  dsimp only at reads
  split at reads
  · simp at reads
  · split at reads
    · simp at reads
    · rename_i head rest words
      obtain rfl := Option.some.inj reads
      -- The words behind the first are among the words of the text.
      have listed : word ∈ (Text.words (Text.trim text)).map String.ofList :=
        words ▸ List.mem_cons_of_mem _ inside
      obtain ⟨piece, isWord, rfl⟩ := List.mem_map.1 listed
      have nonempty : piece ≠ [] := by simpa using (List.mem_filter.1 isWord).2
      -- Words are pieces that are not empty.
      rintro empty
      exact nonempty (String.ofList_injective empty)

/-- A declared parameter has one of the words of its line for a name. -/
theorem Line.name_parameter_mem {line : Line} {parameter : Parameter} (declares : line.parameter = .ok parameter) :
    parameter.name ∈ line.rest := by
  unfold Line.parameter at declares
  -- The word for the name is behind that for the type, or behind two of a closure.
  split at declares
  · simp at declares
  · rename_i rest words
    rw [words]
    split at declares
    -- Each form that is read has the name among its words.
    · split at declares
      · simp at declares
      · simp at declares
      · obtain rfl := Except.ok.inj declares
        simp
    · split at declares
      · simp at declares
      · obtain rfl := Except.ok.inj declares
        simp

/-- The outputs declared so far are named when none of their names is empty. -/
def OutputsNamed (shader : Option Artifact) : Prop :=
  ∀ artifact, shader = some artifact → ∀ output ∈ artifact.outputs, output.name ≠ ""

/-- One more line of words adds named outputs only. -/
theorem OutputsNamed.readLine {shader next : Option Artifact} {line : Line} (named : OutputsNamed shader)
    (words : ∀ word ∈ line.rest, word ≠ "") (read : readLine shader line = .ok next) : OutputsNamed next := by
  unfold Artifact.readLine at read
  split at read
  -- A shader line starts anew, without outputs.
  · split at read
    · simp at read
    · obtain rfl := Except.ok.inj read
      rintro _ ⟨⟩ output inside
      simp at inside
  · split at read
    · split at read
      · simp at read
      · rename_i artifact
        obtain ⟨parameter, declares, done⟩ := ok_of_bind read
        have new : parameter.name ≠ "" := words _ (Line.name_parameter_mem declares)
        split at done
        -- The new output comes behind those that are there.
        · obtain rfl := Except.ok.inj done
          rintro _ ⟨⟩ output inside
          rcases List.mem_append.1 inside with old | last
          · exact named artifact rfl output old
          · exact List.mem_singleton.1 last ▸ new
        · obtain rfl := Except.ok.inj done
          rintro _ ⟨⟩
          exact named artifact rfl
    · exact Except.ok.inj read ▸ named

/-- All outputs that a compiled shader declares have names. -/
theorem name_output_ne_empty {text : String} {artifact : Artifact} (reads : ofText text = .ok artifact) :
    ∀ output ∈ artifact.outputs, output.name ≠ "" := by
  obtain ⟨declared, works, done⟩ := ok_of_bind reads
  have named : OutputsNamed declared := by
    refine holds_of_foldlM (fun _ absent => by simp at absent) (fun line inside shader next named read => ?_) works
    -- The line was read off the text, so its words are not empty.
    obtain ⟨source, _, isLine⟩ := List.mem_filterMap.1 ((List.takeWhile_sublist _).subset inside)
    exact named.readLine (fun _ word => Line.word_ne_empty isLine word) read
  cases declared with
  | none => simp [throw, throwThe, MonadExceptOf.throw] at done
  | some found => exact Except.ok.inj done ▸ named found rfl

end Artifact

namespace Registry

/-- An entry is made of a text that declares a shader, and of the stem of its path. -/
theorem entryOf_ok {path : Path} {content : Except ReadFailure String} {metadata : Dict String}
    {subIdentifier sourceType : String} {entry : ShaderEntry}
    (made : entryOf path content metadata subIdentifier sourceType = .ok entry) :
    ∃ text artifact, content = .ok text ∧ Artifact.ofText text = .ok artifact ∧
      Path.stem? path = some entry.identifier ∧ entry.sourceType = sourceType ∧
      entry.outputs = artifact.outputs.map plugOf := by
  -- Of all the ways through, only the last makes an entry.
  unfold entryOf at made
  split at made
  · simp at made
  · split at made
    · simp at made
    · rename_i text _ artifact reads
      split at made
      · simp at made
      · rename_i identifier named
        obtain rfl := Except.ok.inj made
        exact ⟨text, artifact, rfl, reads, named, rfl, rfl⟩

/-- The entry for a compiled shader is identified by the stem of its path. -/
theorem stem?_of_entryOf {path : Path} {content : Except ReadFailure String} {metadata : Dict String}
    {subIdentifier sourceType : String} {entry : ShaderEntry}
    (made : entryOf path content metadata subIdentifier sourceType = .ok entry) :
    Path.stem? path = some entry.identifier := by
  -- The identifier of the entry is the stem of its path.
  obtain ⟨_, _, _, _, named, _⟩ := entryOf_ok made
  exact named

/-- An entry does not change what is found under other identifiers. -/
theorem find?_insert_of_ne {registry : Registry} {entry : ShaderEntry} {identifier : String}
    (apart : identifier ≠ entry.identifier) :
    (registry.insert entry).find? identifier = registry.find? identifier := by
  unfold find? insert
  rw [List.find?_append, List.find?_filter]
  have behind : [entry].find? (fun old => old.identifier = identifier) = none := by
    simp [Ne.symm apart]
  rw [behind, Option.or_none]
  -- What the new entry replaces has its identifier, so none of the entries looked for is dropped.
  congr 1
  funext old
  by_cases same : old.identifier = identifier
  · simp [same, apart]
  · simp [same]

/-- An entry under an identifier that nothing was found under is found under it. -/
theorem find?_insert_self {registry : Registry} {entry : ShaderEntry}
    (fresh : registry.find? entry.identifier = none) :
    (registry.insert entry).find? entry.identifier = some entry := by
  unfold find? at fresh
  unfold find? insert
  rw [List.find?_append]
  -- No earlier entry has the identifier, so none of those that stay has it.
  have before : (registry.entries.filter fun old =>
      ¬(old.identifier = entry.identifier ∧ old.sourceType = entry.sourceType)).find?
        (·.identifier = entry.identifier) = none := by
    rw [List.find?_eq_none] at fresh ⊢
    exact fun old inside => fresh old (List.mem_filter.1 inside).1
  rw [before]
  simp

/-- Entries of which no two share an identifier and a source type are registered as they are. -/
theorem insertAll_of_distinct {registry : Registry} {entries : List ShaderEntry}
    (distinct : (registry.entries ++ entries).Pairwise fun old entry =>
      ¬(old.identifier = entry.identifier ∧ old.sourceType = entry.sourceType)) :
    registry.insertAll entries = ⟨registry.entries ++ entries⟩ := by
  -- No entry competes with one before it, so each is added at the end.
  unfold insertAll
  induction entries generalizing registry with
  | nil => simp
  | cons entry rest ih =>
    have inserted : registry.insert entry = ⟨registry.entries ++ [entry]⟩ := by
      unfold insert
      congr 2
      rw [List.filter_eq_self]
      intro old inside
      exact decide_eq_true ((List.pairwise_append.1 distinct).2.2 old inside entry List.mem_cons_self)
    rw [List.foldl_cons, inserted, ih]
    · simp
    · simpa using distinct

/-- The entry for a compiled shader has the source type that was asked for. -/
theorem sourceType_of_entryOf {path : Path} {content : Except ReadFailure String} {metadata : Dict String}
    {subIdentifier sourceType : String} {entry : ShaderEntry}
    (made : entryOf path content metadata subIdentifier sourceType = .ok entry) :
    entry.sourceType = sourceType := by
  -- The entry is made with the given type.
  obtain ⟨_, _, _, _, _, same, _⟩ := entryOf_ok made
  exact same

/-- The entry for a compiled shader has no output without a name. -/
theorem hasOutput_empty_of_entryOf {path : Path} {content : Except ReadFailure String}
    {metadata : Dict String} {subIdentifier sourceType : String} {entry : ShaderEntry}
    (made : entryOf path content metadata subIdentifier sourceType = .ok entry) : entry.hasOutput "" = false := by
  obtain ⟨_, artifact, _, reads, _, _, outputs⟩ := entryOf_ok made
  rw [ShaderEntry.hasOutput, ShaderEntry.output?, Option.isSome_eq_false_iff, Option.isNone_iff_eq_none,
    List.find?_eq_none]
  intro plug inside
  -- The outputs of the entry are those that the text declares.
  rw [outputs] at inside
  obtain ⟨output, declared, rfl⟩ := List.mem_map.1 inside
  exact fun empty => Artifact.name_output_ne_empty reads output declared (of_decide_eq_true empty)

/-- There is an entry of an identifier and a source type when one of those registered is. -/
theorem findTyped?_ne_none_iff {registry : Registry} {identifier sourceType : String} :
    registry.findTyped? identifier sourceType ≠ none ↔
      ∃ entry ∈ registry.entries, entry.identifier = identifier ∧ entry.sourceType = sourceType := by
  -- The search goes through all entries.
  simp [findTyped?, List.find?_eq_none]

/-- An identifier that has an entry of some source type is found. -/
theorem find?_ne_none_of_findTyped? {registry : Registry} {identifier sourceType : String}
    (found : registry.findTyped? identifier sourceType ≠ none) : registry.find? identifier ≠ none := by
  -- The entry that is found by both its names is found by the first.
  obtain ⟨entry, inside, named, _⟩ := findTyped?_ne_none_iff.1 found
  intro nothing
  exact List.find?_eq_none.1 nothing entry inside (decide_eq_true named)

/-- An entry is found under its identifier and source type, and does not change what is found under others.
-/
theorem findTyped?_insert (registry : Registry) (entry : ShaderEntry) (identifier sourceType : String) :
    (registry.insert entry).findTyped? identifier sourceType =
      if entry.identifier = identifier ∧ entry.sourceType = sourceType then some entry
      else registry.findTyped? identifier sourceType := by
  unfold findTyped? insert
  rw [List.find?_append]
  by_cases same : entry.identifier = identifier ∧ entry.sourceType = sourceType
  -- All that were registered under them before are dropped.
  · obtain ⟨rfl, rfl⟩ := same
    have before : (registry.entries.filter fun old =>
        ¬(old.identifier = entry.identifier ∧ old.sourceType = entry.sourceType)).find? (fun old =>
          old.identifier = entry.identifier && old.sourceType = entry.sourceType) = none := by
      rw [List.find?_eq_none]
      intro old kept
      have other := of_decide_eq_true (List.mem_filter.1 kept).2
      simpa using other
    rw [before]
    simp
  -- The entries looked for are not those that the new one replaces.
  · have behind : [entry].find? (fun old => old.identifier = identifier && old.sourceType = sourceType) =
        none := by
      simpa using same
    rw [behind, Option.or_none, if_neg same, List.find?_filter]
    congr 1
    funext old
    by_cases sought : old.identifier = identifier ∧ old.sourceType = sourceType
    · have stays : ¬(identifier = entry.identifier ∧ sourceType = entry.sourceType) :=
        fun replaced => same ⟨replaced.1.symm, replaced.2.symm⟩
      simp [sought, stays]
    · have other : (decide (old.identifier = identifier) && decide (old.sourceType = sourceType)) = false := by
        simpa using sought
      simp [other]

/-- Of entries registered in order, the last of an identifier and a source type is found under them, and else
the one that was registered before. -/
theorem findTyped?_insertAll (registry : Registry) (entries : List ShaderEntry)
    (identifier sourceType : String) :
    (registry.insertAll entries).findTyped? identifier sourceType =
      (entries.reverse.find? fun entry =>
        entry.identifier = identifier && entry.sourceType = sourceType).or
          (registry.findTyped? identifier sourceType) := by
  unfold insertAll
  induction entries generalizing registry with
  | nil => rfl
  | cons entry rest ih =>
    -- What is registered first gives way to all that follows.
    rw [List.foldl_cons, ih, findTyped?_insert, List.reverse_cons, List.find?_append, Option.or_assoc]
    by_cases same : entry.identifier = identifier ∧ entry.sourceType = sourceType
    · simp [same]
    · have other : (decide (entry.identifier = identifier) && decide (entry.sourceType = sourceType)) =
          false := by simpa using same
      simp [same, other]

/-- Once an entry is registered, there is one of its identifier and source type, and of all those that there
was one of before. -/
theorem findTyped?_insert_ne_none {registry : Registry} {entry : ShaderEntry}
    {identifier sourceType : String}
    (known : (entry.identifier = identifier ∧ entry.sourceType = sourceType) ∨
      registry.findTyped? identifier sourceType ≠ none) :
    (registry.insert entry).findTyped? identifier sourceType ≠ none := by
  rw [findTyped?_ne_none_iff]
  by_cases same : entry.identifier = identifier ∧ entry.sourceType = sourceType
  · exact ⟨entry, by simp [insert], same⟩
  -- The new entry replaces none of another identifier or source type.
  · obtain ⟨old, inside, named, typed⟩ := findTyped?_ne_none_iff.1 (known.resolve_left same)
    refine ⟨old, List.mem_append_left _ (List.mem_filter.2 ⟨inside, decide_eq_true ?_⟩), named, typed⟩
    exact fun replaced => same ⟨replaced.1 ▸ named, replaced.2 ▸ typed⟩

/-- Once entries are registered, there is one of the identifier and source type of each. -/
theorem findTyped?_insertAll_ne_none {registry : Registry} {entries : List ShaderEntry}
    {identifier sourceType : String}
    (known : (∃ entry ∈ entries, entry.identifier = identifier ∧ entry.sourceType = sourceType) ∨
      registry.findTyped? identifier sourceType ≠ none) :
    (registry.insertAll entries).findTyped? identifier sourceType ≠ none := by
  -- An insertion replaces an entry by one of the same names or leaves it.
  unfold insertAll
  induction entries generalizing registry with
  | nil => simpa using known
  | cons first rest ih =>
    refine ih ?_
    rcases known with ⟨entry, inside, same⟩ | old
    · rcases List.mem_cons.1 inside with rfl | later
      · exact .inr (findTyped?_insert_ne_none (.inl same))
      · exact .inl ⟨entry, later, same⟩
    · exact .inr (findTyped?_insert_ne_none (.inr old))

/-- Registering entries adds no others. -/
theorem mem_entries_of_insertAll {registry : Registry} {entries : List ShaderEntry} {entry : ShaderEntry}
    (inside : entry ∈ (registry.insertAll entries).entries) :
    entry ∈ registry.entries ∨ entry ∈ entries := by
  -- After an insertion an entry is an old one or the new one.
  unfold insertAll at inside
  induction entries generalizing registry with
  | nil => exact .inl inside
  | cons first rest ih =>
    rcases ih inside with old | later
    · rcases List.mem_append.1 old with kept | now
      · exact .inl (List.mem_filter.1 kept).1
      · exact .inr (List.mem_cons.2 (.inl (List.mem_singleton.1 now)))
    · exact .inr (List.mem_cons_of_mem _ later)

/-- An entry among those registered is found under its identifier, if all that have that are the same. -/
theorem find?_insertAll_of_agree {registry : Registry} {entries : List ShaderEntry} {entry : ShaderEntry}
    (member : entry ∈ entries) (free : registry.find? entry.identifier = none)
    (agree : ∀ other ∈ entries, other.identifier = entry.identifier → other = entry) :
    (registry.insertAll entries).find? entry.identifier = some entry := by
  have known : (registry.insertAll entries).find? entry.identifier ≠ none :=
    find?_ne_none_of_findTyped? (findTyped?_insertAll_ne_none (.inl ⟨entry, member, rfl, rfl⟩))
  obtain ⟨other, found⟩ := Option.ne_none_iff_exists'.1 known
  have named : other.identifier = entry.identifier := by simpa using List.find?_some found
  -- What is found was not registered before, and so it is among the entries.
  rcases mem_entries_of_insertAll (List.mem_of_find?_eq_some found) with old | new
  · exact absurd (decide_eq_true named) (List.find?_eq_none.1 free other old)
  · rw [found, agree other new named]

end Registry

end ShadeBake

import ShadeBake.Proofs.Conversion.Provenance

/-! The shaders that a conversion compiles, in order, and what stays true of the nodes that were
converted. -/

namespace ShadeBake

/-- A registry admits entries when none is registered under the identifier of another one, be it there
already or among them. -/
def Registry.Admits (registry : Registry) (entries : List ShaderEntry) : Prop :=
  (entries.map (·.identifier)).Nodup ∧ ∀ entry ∈ entries, registry.find? entry.identifier = none

/-- What a registry admits it admits one by one. -/
theorem Registry.Admits.insert {registry : Registry} {entry : ShaderEntry} {rest : List ShaderEntry}
    (admits : registry.Admits (entry :: rest)) : (registry.insert entry).Admits rest := by
  obtain ⟨distinct, free⟩ := admits
  rw [List.map_cons, List.nodup_cons] at distinct
  refine ⟨distinct.2, fun other inside => ?_⟩
  -- The entry that goes in has an identifier of its own.
  have apart : other.identifier ≠ entry.identifier := fun same =>
    distinct.1 (same ▸ List.mem_map_of_mem inside)
  rw [find?_insert_of_ne apart]
  exact free other (List.mem_cons_of_mem _ inside)

/-- A registry admits some of the entries that it admits. -/
theorem Registry.Admits.sublist {registry : Registry} {some all : List ShaderEntry}
    (admits : registry.Admits all) (part : some.Sublist all) : registry.Admits some :=
  -- Entries that do not clash keep from clashing when some are left out.
  ⟨admits.1.sublist (part.map _), fun entry inside => admits.2 entry (part.subset inside)⟩

/-- Entries of other identifiers do not change what is found under one. -/
theorem Registry.find?_insertAll_of_not_mem {registry : Registry} {entries : List ShaderEntry}
    {identifier : String} (apart : ∀ entry ∈ entries, identifier ≠ entry.identifier) :
    (registry.insertAll entries).find? identifier = registry.find? identifier := by
  -- None of the insertions is made under the identifier.
  unfold insertAll
  induction entries generalizing registry with
  | nil => rfl
  | cons first rest ih =>
    exact (ih fun entry inside => apart entry (List.mem_cons_of_mem _ inside)).trans
      (find?_insert_of_ne (apart first List.mem_cons_self))

/-- Every entry that a registry admits is found under its identifier once all are registered. -/
theorem Registry.Admits.find?_insertAll {registry : Registry} {entries : List ShaderEntry}
    {entry : ShaderEntry} (admits : registry.Admits entries) (member : entry ∈ entries) :
    (registry.insertAll entries).find? entry.identifier = some entry := by
  unfold insertAll
  induction entries generalizing registry with
  | nil => simp at member
  | cons first rest ih =>
    rw [List.foldl_cons]
    rcases List.mem_cons.1 member with rfl | later
    -- The entry is found once it is registered, and those behind it have other identifiers.
    · have distinct := admits.1
      rw [List.map_cons, List.nodup_cons] at distinct
      refine (find?_insertAll_of_not_mem fun other inside same => ?_).trans
        (find?_insert_self (admits.2 entry List.mem_cons_self))
      exact distinct.1 (same ▸ List.mem_map_of_mem inside)
    · exact ih admits.insert later

/-- Of names that are all missing or visited, the first is not fresh. -/
theorem Network.fresh_cons_of_not {network : Network} {visited rest : List String} {name : String}
    (old : network.hasNode name = true → name ∈ visited) :
    network.fresh visited (name :: rest) = network.fresh visited rest := by
  -- The first name is absent or was visited, and is skipped.
  rw [fresh, if_neg fun new => new.2 (old new.1)]

/-- A name that exists and was not visited is fresh. -/
theorem Network.fresh_cons_of_new {network : Network} {visited rest : List String} {name : String}
    (present : network.hasNode name = true) (new : name ∉ visited) :
    network.fresh visited (name :: rest) = name :: network.fresh (visited ++ [name]) rest := by
  -- The first name is new, and counts as visited from here on.
  rw [fresh, if_pos ⟨present, new⟩]

namespace Conversion

variable {σ : Type}

/-- The entries for the shaders that nodes are compiled to, one node after the other. -/
def compiledEntries (compile : Compiler σ) (document : Document) (searchPaths : List String) :
    List String → σ → List ShaderEntry
  | [], _ => []
  | node :: rest, compiler =>
    let (shader, next) := compiledShader compile document searchPaths node compiler
    -- A node without a shader that can be read and named is passed over.
    (shader.bind CompiledShader.entry?).toList ++ compiledEntries compile document searchPaths rest next

/-- The shader that a node was converted to is found under the node's type. -/
theorem shader?_eq {conversion : Conversion σ} {node : String}
    (present : conversion.network.hasNode node = true) :
    conversion.shader? node =
      if node ∈ conversion.summary.converted then
        conversion.registry.find? (conversion.network.typeOf node)
      else none := by
  -- The node exists, so its type is the one that shaders are looked up by.
  rw [shader?, Network.type?_of_hasNode present]
  rfl

/-- Binding an input leaves the types of all nodes. -/
theorem type?_bind (conversion : Conversion σ) (terminal input : String) (connection : Connection)
    (entry : ShaderEntry) (node : String) :
    (conversion.bind terminal input connection entry).network.type? node =
      conversion.network.type? node :=
  -- Binding leaves types and records.
  Network.type?_congr (Network.typeOf_bindConverted ..) (Network.mem_nodeNames_bindConverted ..)

/-- Binding an input changes nothing about the shaders of nodes. -/
theorem shader?_bind (conversion : Conversion σ) (terminal input : String) (connection : Connection)
    (entry : ShaderEntry) (node : String) :
    (conversion.bind terminal input connection entry).shader? node = conversion.shader? node := by
  -- Binding changes connections, and a shader is known by the type of its node.
  unfold shader?
  rw [type?_bind]
  rfl

/-- A node converted to a shader that is new to the registry has that shader. -/
theorem shader?_convert_self (conversion : Conversion σ) (terminal input : String) {connection : Connection}
    {entry : ShaderEntry} {registry : Registry} (identified : entry.identifier ≠ "")
    (free : registry.find? entry.identifier = none) :
    (conversion.convert terminal input connection entry (registry.insert entry)).shader?
      connection.source = some entry := by
  -- The node gets the identifier of its shader as its type, under which the shader is found.
  have typed : (conversion.convert terminal input connection entry
      (registry.insert entry)).network.typeOf connection.source = entry.identifier := by
    simp only [convert, bind, Network.typeOf_stripNode, Network.typeOf_bindConverted,
      Network.typeOf_setType, if_true]
  have present : (conversion.convert terminal input connection entry
      (registry.insert entry)).network.hasNode connection.source = true := by
    rw [Network.hasNode_iff, typed]
    exact identified
  have converted : connection.source ∈ (conversion.convert terminal input connection entry
      (registry.insert entry)).summary.converted := by
    simp [convert, bind]
  rw [shader?_eq present, if_pos converted, typed]
  exact Registry.find?_insert_self free

/-- Converting a node to a shader that is new to the registry leaves the shaders of all others. -/
theorem shader?_convert_of_ne {conversion : Conversion σ} (terminal input : String) {connection : Connection}
    {entry : ShaderEntry} (free : conversion.registry.find? entry.identifier = none) {node : String}
    (apart : node ≠ connection.source)
    (resolved : node ∈ conversion.summary.converted → ∃ shader, conversion.shader? node = some shader) :
    (conversion.convert terminal input connection entry
      (conversion.registry.insert entry)).shader? node = conversion.shader? node := by
  -- The other node is neither retyped nor taken away.
  have typed : (conversion.convert terminal input connection entry
      (conversion.registry.insert entry)).network.type? node = conversion.network.type? node := by
    refine Network.type?_congr ?_ ?_
    · simp only [convert, bind, Network.typeOf_stripNode, Network.typeOf_bindConverted,
        Network.typeOf_setType, if_neg (Ne.symm apart)]
    · simp only [convert, bind, Network.mem_nodeNames_stripNode, Network.mem_nodeNames_bindConverted,
        Network.mem_nodeNames_setType, Ne.symm apart, false_or]
  -- Nor is it newly listed as converted.
  have listed : node ∈ (conversion.convert terminal input connection entry
      (conversion.registry.insert entry)).summary.converted ↔ node ∈ conversion.summary.converted := by
    simp [convert, bind, apart]
  unfold shader? at resolved ⊢
  simp only [typed, listed]
  by_cases converted : node ∈ conversion.summary.converted
  -- A node converted before has a type that is registered, which the new identifier is not.
  · obtain ⟨shader, found⟩ := resolved converted
    simp only [if_pos converted] at found ⊢
    obtain ⟨type, isType, entered⟩ := Option.bind_eq_some_iff.1 found
    have other : type ≠ entry.identifier := by
      rintro rfl
      simp [free] at entered
    rw [isType]
    exact Registry.find?_insert_of_ne other
  · simp only [if_neg converted]

/-- A conversion is in sequence when it stays within the network, the shaders ahead of it can be
registered, and each node converted so far has a shader. Ahead are the sources of the inputs that are
still to be done. -/
structure InSequence (compile : Compiler σ) (document : Document) (searchPaths : List String)
    (origin : Network) (terminal : String) (ahead : List String) (conversion : Conversion σ) : Prop where
  within : StaysWithin origin terminal conversion
  firstLevel : ∀ node, node ∈ conversion.summary.firstLevel ↔ node ∈ Dict.keys conversion.keep
  admits : conversion.registry.Admits (compiledEntries compile document searchPaths
    (origin.fresh conversion.summary.firstLevel ahead) conversion.compiler)
  resolved : ∀ node ∈ conversion.summary.converted,
    node ∈ Dict.keys conversion.keep ∧ ∃ entry, conversion.shader? node = some entry

namespace InSequence

variable {compile : Compiler σ} {document : Document} {searchPaths : List String} {origin : Network}
  {terminal input : String} {ahead : List String} {conversion next : Conversion σ} {connection : Connection}

/-- What is compiled for a new node comes first. -/
theorem admits_new
    (sequence : InSequence compile document searchPaths origin terminal (connection.source :: ahead)
      conversion)
    (present : conversion.network.hasNode connection.source = true)
    (new : connection.source ∉ Dict.keys conversion.keep) :
    conversion.registry.Admits
      (((compiledShader compile document searchPaths connection.source conversion.compiler).1.bind
        CompiledShader.entry?).toList ++
          compiledEntries compile document searchPaths
            (origin.fresh (conversion.summary.firstLevel ++ [connection.source]) ahead)
            (compiledShader compile document searchPaths connection.source conversion.compiler).2) := by
  have admits := sequence.admits
  -- The node is the first of the fresh ones, so its entry comes first.
  rw [Network.fresh_cons_of_new (sequence.within.derives.present _ ▸ present)
    (fun inside => new ((sequence.firstLevel _).1 inside))] at admits
  exact admits

/-- The entry for a new node has an identifier that is not registered, and with it the registry admits the
others. -/
theorem admits_entry
    (sequence : InSequence compile document searchPaths origin terminal (connection.source :: ahead)
      conversion)
    (present : conversion.network.hasNode connection.source = true)
    (new : connection.source ∉ Dict.keys conversion.keep) {entry : ShaderEntry}
    (shader : (compiledShader compile document searchPaths connection.source
      conversion.compiler).1.bind CompiledShader.entry? = some entry) :
    entry.identifier ≠ "" ∧ conversion.registry.find? entry.identifier = none ∧
      (conversion.registry.insert entry).Admits (compiledEntries compile document searchPaths
        (origin.fresh (conversion.summary.firstLevel ++ [connection.source]) ahead)
        (compiledShader compile document searchPaths connection.source conversion.compiler).2) := by
  have admits := sequence.admits_new present new
  rw [shader] at admits
  -- The identifier is the stem of the artifact's path, which is never empty.
  obtain ⟨artifact, _, made⟩ := Option.bind_eq_some_iff.1 shader
  exact ⟨Path.stem?_ne_empty (CompiledShader.stem?_path made), admits.2 _ List.mem_cons_self,
    Registry.Admits.insert admits⟩

/-- Nothing is compiled for a node that is missing or was met before. -/
theorem admits_old
    (sequence : InSequence compile document searchPaths origin terminal (connection.source :: ahead)
      conversion)
    (old : conversion.network.hasNode connection.source = true →
      connection.source ∈ Dict.keys conversion.keep) :
    conversion.registry.Admits (compiledEntries compile document searchPaths
      (origin.fresh conversion.summary.firstLevel ahead) conversion.compiler) := by
  have admits := sequence.admits
  -- A node that is missing or was met is not among the fresh ones.
  rwa [Network.fresh_cons_of_not fun present =>
    (sequence.firstLevel _).2 (old ((sequence.within.derives.present _).trans present))] at admits

/-- Every transition goes on in sequence. -/
theorem transition
    (sequence : InSequence compile document searchPaths origin terminal (connection.source :: ahead)
      conversion)
    (connected : conversion.network.input? terminal input = some connection)
    (moves : Transition compile document searchPaths terminal conversion input next) :
    InSequence compile document searchPaths origin terminal ahead next := by
  have within := sequence.within.transition moves
  cases moves with
  -- Only a node that is met for the first time uses up an entry ahead.
  | unconnected absent => simp [absent] at connected
  | dangling connected' missing =>
    cases connected.symm.trans connected'
    exact ⟨within, sequence.firstLevel, sequence.admits_old (by simp [missing]), sequence.resolved⟩
  | unconverted connected' present met plain =>
    cases connected.symm.trans connected'
    exact ⟨within, sequence.firstLevel, sequence.admits_old fun _ => met, sequence.resolved⟩
  | rebound connected' present met shader =>
    cases connected.symm.trans connected'
    refine ⟨within, sequence.firstLevel, sequence.admits_old fun _ => met, fun node converted => ?_⟩
    rw [shader?_bind]
    exact sequence.resolved node converted
  | failed connected' present new nothing =>
    cases connected.symm.trans connected'
    have admits := sequence.admits_new present new
    rw [nothing] at admits
    refine ⟨within, fun node => ?_, admits, fun node converted => ?_⟩
    · simp only [advance, meet, List.mem_append, List.mem_singleton, sequence.firstLevel,
        NameSet.mem_keys_add, or_comm]
    · obtain ⟨met, shader⟩ := sequence.resolved node converted
      exact ⟨NameSet.mem_keys_add.2 (.inr met), shader⟩
  | converted connected' present new shader =>
    cases connected.symm.trans connected'
    obtain ⟨identified, free, admits⟩ := sequence.admits_entry present new shader
    refine ⟨within, fun node => ?_, admits, fun node converted => ?_⟩
    · simp only [convert, bind, advance, meet, List.mem_append, List.mem_singleton,
        sequence.firstLevel, NameSet.mem_keys_add, or_comm]
    -- The node itself has the new shader, and the shaders of all others stay.
    · by_cases same : node = connection.source
      · subst same
        exact ⟨NameSet.mem_keys_add.2 (.inl rfl), _, shader?_convert_self _ terminal input identified free⟩
      · have before : node ∈ conversion.summary.converted := by
          simpa [convert, bind, advance, meet, same] using converted
        obtain ⟨met, found, shader⟩ := sequence.resolved node before
        exact ⟨NameSet.mem_keys_add.2 (.inr met), found,
          (shader?_convert_of_ne terminal input free same fun _ => ⟨found, shader⟩).trans shader⟩

end InSequence

end Conversion

end ShadeBake

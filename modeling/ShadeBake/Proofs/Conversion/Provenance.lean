import ShadeBake.Proofs.Conversion.Binding
import ShadeBake.Proofs.Conversion.Transition
import ShadeBake.Proofs.Network.Reach

/-! A conversion makes up no connection: whatever a node reads on the way, it read on entry. -/

namespace ShadeBake

namespace Network

/-- A network derives from another when both have the same nodes and the same bindings, and every connection
comes from one of the same node in the other. -/
structure Derives (origin network : Network) : Prop where
  /-- The same names have records. -/
  records : ∀ node, node ∈ network.nodeNames ↔ node ∈ origin.nodeNames
  /-- The same nodes exist. -/
  present : ∀ node, network.hasNode node = origin.hasNode node
  /-- A connection may have moved to another input, but not to another node. -/
  inputs : ∀ node name connection, network.input? node name = some connection →
    ∃ earlier, origin.input? node earlier = some connection
  /-- The same slots are bound to the same connections. -/
  bindings : network.terminals = origin.terminals

namespace Derives

variable {origin network : Network}

/-- Every network derives from itself. -/
theorem refl (network : Network) : Derives network network :=
  -- Nothing has changed.
  ⟨fun _ => Iff.rfl, fun _ => rfl, fun _ name _ connected => ⟨name, connected⟩, rfl⟩

/-- What a node reads in a derived network it reads in the other. -/
theorem reads (derives : Derives origin network) {node source : String}
    (read : network.Reads node source) : origin.Reads node source := by
  -- A connection that is there was at some input of the same node before.
  obtain ⟨present, name, connection, connected, same⟩ := read
  obtain ⟨earlier, original⟩ := derives.inputs node name connection connected
  exact ⟨derives.present source ▸ present, earlier, connection, original, same⟩

/-- A node that exists may get any type that is not empty. -/
theorem setType (derives : Derives origin network) {node type : String}
    (present : network.hasNode node = true) (typed : type ≠ "") :
    Derives origin (network.setType node type) where
  records other := by
    rw [mem_nodeNames_setType, ← derives.records]
    -- A node that exists has a record already.
    exact or_iff_right_of_imp fun same => same ▸ mem_nodeNames_of_hasNode present
  present other := by
    rw [← derives.present]
    -- A type that is not empty keeps the node existing.
    by_cases same : node = other
    · subst same
      rw [present, hasNode_iff, typeOf_setType, if_pos rfl]
      exact typed
    · exact hasNode_congr (by rw [typeOf_setType, if_neg same])
  inputs other name connection connected := by
    rw [input?_setType] at connected
    exact derives.inputs other name connection connected
  bindings := derives.bindings

/-- A terminal may be bound to a shader by a connection that it had. -/
theorem bind (derives : Derives origin network) {terminal earlier : String} {connection : Connection}
    (original : origin.input? terminal earlier = some connection) (input : String) (entry : ShaderEntry) :
    Derives origin (network.bindConverted terminal input connection entry).1 where
  records other := by rw [mem_nodeNames_bindConverted, derives.records]
  present other := by rw [← derives.present, hasNode_congr (typeOf_bindConverted ..)]
  inputs other name found connected := by
    -- The connection that is bound was one of the terminal's own.
    have known : terminal ∈ network.nodeNames :=
      (derives.records terminal).2 (mem_nodeNames_of_input? original)
    rw [input?_bindConverted _ _ _ _ _ _ _ known] at connected
    split at connected
    -- The bound input has the connection itself, and all others have what they had.
    · rename_i here
      simp only [Option.some.injEq] at connected
      exact ⟨earlier, connected ▸ here.1 ▸ original⟩
    · split at connected
      · simp at connected
      · exact derives.inputs other name found connected
  bindings := by rw [terminals_bindConverted, derives.bindings]

/-- A node may lose all its connections and parameters. -/
theorem stripNode (derives : Derives origin network) (node : String) :
    Derives origin (network.stripNode node) where
  records other := by rw [mem_nodeNames_stripNode, derives.records]
  present other := by rw [← derives.present, hasNode_congr (typeOf_stripNode ..)]
  inputs other name connection connected := by
    rw [input?_stripNode] at connected
    -- The stripped node has no inputs, and those of all others were there before.
    split at connected
    · simp at connected
    · exact derives.inputs other name connection connected
  bindings := derives.bindings

end Derives

/-- A collected node is read by one on the stack, directly or through others. -/
theorem mem_gatherFrom {network : Network} {visited stack : List String} {name : String}
    (member : name ∈ (network.gatherFrom visited stack).1) :
    ∃ root ∈ stack, Relation.TransGen network.Reads root name := by
  fun_induction network.gatherFrom visited stack with
  | case1 visited => simp at member
  | case2 visited node rest found later warnings result ih =>
    -- What is found now is read by the node on top, and what is found later by others.
    have reads : ∀ source ∈ found, network.Reads node source := fun source inside => by
      obtain ⟨present, _, listed⟩ := mem_fresh inside
      exact mem_sources_iff.1 (List.mem_filter.2 ⟨listed, present⟩)
    rcases List.mem_append.1 member with now | afterwards
    · exact ⟨node, List.mem_cons_self, .single (reads name now)⟩
    · obtain ⟨root, inside, draws⟩ := ih (by rw [result]; exact afterwards)
      rcases List.mem_append.1 inside with source | pending
      · exact ⟨node, List.mem_cons_self, .head (reads root (List.mem_reverse.1 source)) draws⟩
      · exact ⟨root, List.mem_cons_of_mem _ pending, draws⟩

/-- A collection adds nodes that the given one reads, directly or through others. -/
theorem mem_gather {network : Network} {node name : String} {nodes visited : NameSet}
    (member : name ∈ Dict.keys (network.gather node nodes visited).nodes) :
    name ∈ Dict.keys nodes ∨ Relation.TransGen network.Reads node name := by
  unfold gather at member
  -- The collection starts with the node alone on the stack.
  rcases NameSet.mem_keys_foldl_add.1 member with found | old
  · obtain ⟨root, inside, draws⟩ := mem_gatherFrom found
    exact .inr (List.mem_singleton.1 inside ▸ draws)
  · exact .inl old

/-- A node read through a chain exists. -/
theorem hasNode_of_transGen {network : Network} {node source : String}
    (draws : Relation.TransGen network.Reads node source) : network.hasNode source = true := by
  -- The last step of the chain reads it.
  cases draws with
  | single reads => exact reads.1
  | tail _ reads => exact reads.1

end Network

namespace Conversion

open Network (Derives)

variable {σ : Type}

/-- A conversion stays within the network on entry: its network derives from that one, the terminal reads
the nodes met there, and each collected node feeds one of them. -/
structure StaysWithin (origin : Network) (terminal : String) (conversion : Conversion σ) : Prop where
  derives : Derives origin conversion.network
  kept : ∀ node ∈ Dict.keys conversion.keep, origin.Reads terminal node
  gathered : ∀ node ∈ Dict.keys conversion.candidates,
    ∃ first ∈ Dict.keys conversion.keep, Relation.TransGen origin.Reads first node

namespace StaysWithin

variable {origin : Network} {terminal : String} {conversion : Conversion σ}

/-- At the start nothing has changed and nothing was met. -/
theorem start (network : Network) (registry : Registry) (compiler : σ) (terminal : String) :
    StaysWithin network terminal ({ network, registry, compiler } : Conversion σ) :=
  -- At the start nothing has been met or collected.
  ⟨Network.Derives.refl network, fun _ met => absurd met List.not_mem_nil,
    fun _ collected => absurd collected List.not_mem_nil⟩

/-- A collected node exists. -/
theorem present_of_gathered (within : StaysWithin origin terminal conversion) {node : String}
    (collected : node ∈ Dict.keys conversion.candidates) : origin.hasNode node = true := by
  -- What was collected is read by something, and only present nodes count as read.
  obtain ⟨_, _, draws⟩ := within.gathered node collected
  exact Network.hasNode_of_transGen draws

/-- A node met exists. -/
theorem present_of_met (within : StaysWithin origin terminal conversion) {node : String}
    (met : node ∈ Dict.keys conversion.keep) : origin.hasNode node = true :=
  -- Only nodes of the network are met.
  (within.kept node met).1

/-- Meeting a node that the terminal reads stays within the network. -/
theorem meet (within : StaysWithin origin terminal conversion) {node : String}
    (read : conversion.network.Reads terminal node) :
    StaysWithin origin terminal (conversion.meet node) where
  derives := within.derives
  kept other inside := by
    -- The terminal reads the node on entry too, as the network derives from the original.
    rcases NameSet.mem_keys_add.1 inside with same | old
    · exact same ▸ within.derives.reads read
    · exact within.kept other old
  gathered other inside := by
    rcases Network.mem_gather inside with old | draws
    · obtain ⟨first, met, chain⟩ := within.gathered other old
      exact ⟨first, NameSet.mem_keys_add.2 (.inr met), chain⟩
    · exact ⟨node, NameSet.mem_keys_add.2 (.inl rfl),
        Relation.TransGen.mono (fun _ _ => within.derives.reads) _ _ draws⟩

/-- Work that leaves the network alone stays within it. -/
theorem advance (within : StaysWithin origin terminal conversion) (compiler : σ) (generated compiled : Nat)
    (warnings : List Warning) :
    StaysWithin origin terminal (conversion.advance compiler generated compiled warnings) :=
  -- Counters, warnings and the compiler's state are no part of the network.
  ⟨within.derives, within.kept, within.gathered⟩

/-- Binding an input to a shader stays within the network. -/
theorem bind (within : StaysWithin origin terminal conversion) {input : String} {connection : Connection}
    (connected : conversion.network.input? terminal input = some connection) (entry : ShaderEntry) :
    StaysWithin origin terminal (conversion.bind terminal input connection entry) := by
  -- What is bound is a connection of the terminal, so it derives from one of the terminal's own.
  obtain ⟨earlier, original⟩ := within.derives.inputs terminal input connection connected
  exact ⟨within.derives.bind original input entry, within.kept, within.gathered⟩

/-- Converting a node to a shader stays within the network. -/
theorem convert (within : StaysWithin origin terminal conversion) {input : String} {connection : Connection}
    (connected : conversion.network.input? terminal input = some connection)
    (present : conversion.network.hasNode connection.source = true) {entry : ShaderEntry}
    (identified : entry.identifier ≠ "") (registry : Registry) :
    StaysWithin origin terminal (conversion.convert terminal input connection entry registry) := by
  obtain ⟨earlier, original⟩ := within.derives.inputs terminal input connection connected
  -- The node is retyped, the terminal bound, and the node stripped.
  have retyped := within.derives.setType present identified
  have stripped := (retyped.bind original input entry).stripNode connection.source
  exact ⟨stripped, within.kept, within.gathered⟩

/-- Every transition stays within the network. -/
theorem transition (within : StaysWithin origin terminal conversion) {compile : Compiler σ}
    {document : Document} {searchPaths : List String} {input : String} {next : Conversion σ}
    (moves : Transition compile document searchPaths terminal conversion input next) :
    StaysWithin origin terminal next := by
  cases moves with
  | unconnected absent => exact within
  | dangling connected missing => exact ⟨within.derives, within.kept, within.gathered⟩
  | unconverted connected present met plain => exact within
  | rebound connected present met shader => exact within.bind connected _
  | failed connected present new nothing =>
    exact (within.meet ⟨present, input, _, connected, rfl⟩).advance _ _ _ _
  | converted connected present new shader =>
    -- The identifier is the stem of a path, which is never empty.
    obtain ⟨artifact, _, made⟩ := Option.bind_eq_some_iff.1 shader
    have identified := Path.stem?_ne_empty (CompiledShader.stem?_path made)
    have met := within.meet ⟨present, input, _, connected, rfl⟩
    exact (met.advance _ _ _ _).convert connected present identified _

/-- A run stays within the network. -/
theorem run (within : StaysWithin origin terminal conversion) (compile : Compiler σ) (document : Document)
    (searchPaths : List String) (inputs : List String) :
    StaysWithin origin terminal (Conversion.run compile document searchPaths terminal conversion inputs) := by
  unfold Conversion.run
  induction inputs generalizing conversion with
  | nil => exact within
  | cons input rest ih =>
    -- One step is a transition, and the rest of the run goes on from there.
    exact ih (within.transition
      (step_transition compile document searchPaths terminal conversion input))

end StaysWithin

end Conversion

end ShadeBake

import Mathlib.Data.List.Nodup
import ShadeBake.Proofs.Conversion.Slots
import ShadeBake.Proofs.Conversion.Survival

/-! The books of a conversion: which nodes it met, what each was compiled to, and what that did to the
nodes' records, also where the terminal reads itself. -/

namespace ShadeBake

/-- Binding a terminal leaves the records of all other nodes. -/
theorem Network.get?_bindConverted_of_ne (network : Network) {terminal node : String} (input : String)
    (connection : Connection) (entry : ShaderEntry) (apart : node ≠ terminal) :
    (network.bindConverted terminal input connection entry).1.nodes.get? node =
      network.nodes.get? node := by
  unfold bindConverted connectTerminal
  -- Whatever is done to its inputs, only the terminal's record is changed.
  split
  · split
    · exact (get?_modifyNode_of_ne _ _ apart).trans (get?_modifyNode_of_ne _ _ apart)
    · exact get?_modifyNode_of_ne _ _ apart
  · exact get?_modifyNode_of_ne _ _ apart

namespace Conversion

variable {σ : Type}

/-- Converting a node other than the terminal leaves it with its type alone, and leaves the records of all
nodes but the two. -/
theorem get?_convert (node : String) (conversion : Conversion σ) (terminal input : String)
    (connection : Connection) (entry : ShaderEntry) (registry : Registry) (apart : node ≠ terminal) :
    (conversion.convert terminal input connection entry registry).network.nodes.get? node =
      if connection.source = node then some ⟨entry.identifier, Dict.empty, Dict.empty⟩
      else conversion.network.nodes.get? node := by
  have bound := Network.get?_bindConverted_of_ne
    (conversion.network.setType connection.source entry.identifier) input connection entry apart
  -- The node is retyped, the terminal bound, and the node stripped.
  simp only [convert, bind, Network.stripNode, Network.get?_modifyNode, bound, Network.get?_setType]
  by_cases same : connection.source = node
  · simp [same]
  · simp [same]

/-- A node that is converted is left with its type alone, also if that is the terminal. -/
theorem get?_convert_self (conversion : Conversion σ) (terminal input : String) (connection : Connection)
    (entry : ShaderEntry) (registry : Registry) :
    (conversion.convert terminal input connection entry registry).network.nodes.get? connection.source =
      some ⟨entry.identifier, Dict.empty, Dict.empty⟩ := by
  -- Whatever is bound in between, the node has the type that it was given when it is stripped.
  have typed : ((conversion.network.setType connection.source entry.identifier).bindConverted terminal input
      connection entry).1.type? connection.source = some entry.identifier := by
    have set : (conversion.network.setType connection.source entry.identifier).type? connection.source =
        some entry.identifier := by
      simp [Network.type?, Network.get?_setType]
    rw [← set]
    exact Network.type?_congr (Network.typeOf_bindConverted ..) (Network.mem_nodeNames_bindConverted ..)
  obtain ⟨record, found, isType⟩ := Option.map_eq_some_iff.1 typed
  simp only [convert, bind, Network.stripNode, Network.get?_modifyNode, if_true, found, Option.map_some,
    isType]

/-! ### Outcomes -/

/-- The nodes of a list, each with the entry of the shader that it is compiled to, if there is one. They are
compiled one after the other. -/
def outcomes (compile : Compiler σ) (document : Document) (searchPaths : List String) :
    List String → σ → List (String × Option ShaderEntry)
  | [], _ => []
  | node :: rest, compiler =>
    let (shader, next) := compiledShader compile document searchPaths node compiler
    (node, shader.bind CompiledShader.entry?) :: outcomes compile document searchPaths rest next

/-- The state of the compiler after the nodes of a list. -/
def compilerAfter (compile : Compiler σ) (document : Document) (searchPaths : List String) :
    List String → σ → σ
  | [], compiler => compiler
  | node :: rest, compiler =>
    compilerAfter compile document searchPaths rest
      (compiledShader compile document searchPaths node compiler).2

/-- The nodes of some outcomes that have a shader. -/
def successes (outcomes : List (String × Option ShaderEntry)) : List String :=
  (outcomes.filter (·.2.isSome)).map (·.1)

/-- The entries of the shaders that some outcomes have. -/
def entries (outcomes : List (String × Option ShaderEntry)) : List ShaderEntry :=
  outcomes.filterMap (·.2)

section outcomes

variable (compile : Compiler σ) (document : Document) (searchPaths : List String) (compiler : σ)

/-- The node that is compiled last is compiled in the state that the others leave. -/
theorem outcomes_append (nodes : List String) (node : String) :
    outcomes compile document searchPaths (nodes ++ [node]) compiler =
      outcomes compile document searchPaths nodes compiler ++
        [(node, (compiledShader compile document searchPaths node
          (compilerAfter compile document searchPaths nodes compiler)).1.bind CompiledShader.entry?)] := by
  -- The head is compiled first in both, and leaves the same state to the rest.
  induction nodes generalizing compiler with
  | nil => rfl
  | cons head rest ih => simp only [List.cons_append, outcomes, compilerAfter, ih]

/-- The state after one more node is the one that compiling it leaves. -/
theorem compilerAfter_append (nodes : List String) (node : String) :
    compilerAfter compile document searchPaths (nodes ++ [node]) compiler =
      (compiledShader compile document searchPaths node
        (compilerAfter compile document searchPaths nodes compiler)).2 := by
  -- The states are passed on from the first node to the last.
  induction nodes generalizing compiler with
  | nil => rfl
  | cons head rest ih => simp only [List.cons_append, compilerAfter, ih]

/-- Each node has one outcome, in the order of the nodes. -/
theorem map_fst_outcomes (nodes : List String) :
    (outcomes compile document searchPaths nodes compiler).map (·.1) = nodes := by
  -- There is one outcome for each node, in their order.
  induction nodes generalizing compiler with
  | nil => rfl
  | cons head rest ih => simp only [outcomes, List.map_cons, ih]

/-- The successes are some of the nodes, in their order. -/
theorem successes_sublist (nodes : List String) :
    (successes (outcomes compile document searchPaths nodes compiler)).Sublist nodes := by
  -- The successes are those of the outcomes that a test keeps.
  have some : (successes (outcomes compile document searchPaths nodes compiler)).Sublist
      ((outcomes compile document searchPaths nodes compiler).map (·.1)) := List.filter_sublist.map _
  rwa [map_fst_outcomes] at some

variable {compile document searchPaths compiler}

/-- The outcomes of the nodes in front come first. -/
theorem outcomes_isPrefix {nodes all : List String} (front : nodes <+: all) :
    outcomes compile document searchPaths nodes compiler <+:
      outcomes compile document searchPaths all compiler := by
  induction nodes generalizing all compiler with
  | nil => exact List.nil_prefix
  | cons head rest ih =>
    obtain ⟨behind, rfl⟩ := front
    -- The head is compiled first in both, and leaves the same state to the rest.
    simp only [List.cons_append, outcomes, List.prefix_cons_inj]
    exact ih (List.prefix_append rest behind)

/-- Only nodes of the list have outcomes. -/
theorem mem_of_mem_outcomes {nodes : List String} {node : String} {outcome : Option ShaderEntry}
    (member : (node, outcome) ∈ outcomes compile document searchPaths nodes compiler) : node ∈ nodes := by
  -- The nodes of the outcomes are the given ones.
  have inside := List.mem_map_of_mem (f := (·.1)) member
  rwa [map_fst_outcomes] at inside

/-- The successes are the nodes that have a shader. -/
theorem mem_successes_iff {outcomes : List (String × Option ShaderEntry)} {node : String} :
    node ∈ successes outcomes ↔ ∃ entry, (node, some entry) ∈ outcomes := by
  -- A success is an outcome with an entry.
  simp [successes, Option.isSome_iff_exists]

/-- Every shader that an outcome has is registered. -/
theorem mem_entries {outcomes : List (String × Option ShaderEntry)} {node : String} {entry : ShaderEntry}
    (member : (node, some entry) ∈ outcomes) : entry ∈ entries outcomes :=
  -- The list of entries picks those of the successes.
  List.mem_filterMap.2 ⟨(node, some entry), member, rfl⟩

/-- What a node is compiled to is the entry for a compiled shader. -/
theorem exists_entry?_of_mem_outcomes {nodes : List String} {node : String} {entry : ShaderEntry}
    (member : (node, some entry) ∈ outcomes compile document searchPaths nodes compiler) :
    ∃ shader : CompiledShader, shader.entry? = some entry := by
  induction nodes generalizing compiler with
  | nil => simp [outcomes] at member
  | cons head rest ih =>
    simp only [outcomes, List.mem_cons, Prod.mk.injEq] at member
    rcases member with ⟨_, made⟩ | later
    -- Only what is read from a compiled shader becomes an entry.
    · obtain ⟨shader, _, made⟩ := Option.bind_eq_some_iff.1 made.symm
      exact ⟨shader, made⟩
    · exact ih later

/-- What a node is compiled to is the entry of a shader. -/
theorem sourceType_of_mem_outcomes {nodes : List String} {node : String} {entry : ShaderEntry}
    (member : (node, some entry) ∈ outcomes compile document searchPaths nodes compiler) :
    entry.sourceType = ShaderEntry.shaderType := by
  -- An entry that was made is one of a compiled shader.
  obtain ⟨_, made⟩ := exists_entry?_of_mem_outcomes member
  exact CompiledShader.sourceType_entry made

/-- Where nodes are listed once each, those without a shader are no successes. -/
theorem not_mem_successes {nodes : List String} (distinct : nodes.Nodup) {node : String}
    (failed : (node, none) ∈ outcomes compile document searchPaths nodes compiler) :
    node ∉ successes (outcomes compile document searchPaths nodes compiler) := by
  intro success
  obtain ⟨entry, member⟩ := mem_successes_iff.1 success
  -- Both outcomes are of the same node, so they are one.
  have names : ((outcomes compile document searchPaths nodes compiler).map (·.1)).Nodup :=
    (map_fst_outcomes compile document searchPaths compiler nodes).symm ▸ distinct
  have same := List.inj_on_of_nodup_map names member failed rfl
  simp at same

end outcomes

/-! ### The books of a run -/

/-- A conversion keeps books when the nodes that it met were compiled in their turn, and exactly those with
a shader are listed as converted and have their entries registered. -/
structure KeepsBooks (compile : Compiler σ) (document : Document) (searchPaths : List String)
    (registry : Registry) (compiler : σ) (conversion : Conversion σ) : Prop where
  met : ∀ node, node ∈ conversion.summary.firstLevel ↔ node ∈ Dict.keys conversion.keep
  distinct : conversion.summary.firstLevel.Nodup
  state : conversion.compiler =
    compilerAfter compile document searchPaths conversion.summary.firstLevel compiler
  converted : conversion.summary.converted =
    successes (outcomes compile document searchPaths conversion.summary.firstLevel compiler)
  registered : conversion.registry = registry.insertAll
    (entries (outcomes compile document searchPaths conversion.summary.firstLevel compiler))

/-- One more node is entered into the books with its outcome. -/
theorem KeepsBooks.enter {compile : Compiler σ} {document : Document} {searchPaths : List String}
    {registry : Registry} {compiler : σ} {conversion next : Conversion σ} {node : String}
    {outcome : Option ShaderEntry}
    (books : KeepsBooks compile document searchPaths registry compiler conversion)
    (new : node ∉ Dict.keys conversion.keep)
    (made : (compiledShader compile document searchPaths node
      conversion.compiler).1.bind CompiledShader.entry? = outcome)
    (keep : next.keep = conversion.keep.add node)
    (firstLevel : next.summary.firstLevel = conversion.summary.firstLevel ++ [node])
    (state : next.compiler = (compiledShader compile document searchPaths node conversion.compiler).2)
    (converted : next.summary.converted = conversion.summary.converted ++ successes [(node, outcome)])
    (registered : next.registry = conversion.registry.insertAll (entries [(node, outcome)])) :
    KeepsBooks compile document searchPaths registry compiler next := by
  -- The books hold the state in which the node is compiled, so its outcome is the next one.
  have last : outcomes compile document searchPaths next.summary.firstLevel compiler =
      outcomes compile document searchPaths conversion.summary.firstLevel compiler ++ [(node, outcome)] := by
    rw [firstLevel, outcomes_append, ← books.state, made]
  refine ⟨fun other => ?_, ?_, ?_, ?_, ?_⟩
  · rw [firstLevel, keep, NameSet.mem_keys_add, List.mem_append, List.mem_singleton, books.met, or_comm]
  -- The node is new among those that are kept, and so among those met.
  · rw [firstLevel, List.nodup_append]
    refine ⟨books.distinct, by simp, fun old inside other isNode same => ?_⟩
    exact new ((books.met node).1 (List.mem_singleton.1 isNode ▸ same ▸ inside))
  · rw [firstLevel, compilerAfter_append, ← books.state, state]
  -- Successes and entries of the outcomes before it stay in front.
  · rw [last, converted, books.converted]
    simp only [successes, List.filter_append, List.map_append]
  · rw [last, registered, books.registered]
    simp only [entries, List.filterMap_append, Registry.insertAll, List.foldl_append]

/-- A converted node was met. -/
theorem KeepsBooks.met_of_converted {compile : Compiler σ} {document : Document} {searchPaths : List String}
    {registry : Registry} {compiler : σ} {conversion : Conversion σ}
    (books : KeepsBooks compile document searchPaths registry compiler conversion) {node : String}
    (converted : node ∈ conversion.summary.converted) : node ∈ conversion.summary.firstLevel := by
  rw [books.converted] at converted
  obtain ⟨entry, listed⟩ := mem_successes_iff.1 converted
  -- Outcomes are listed for the nodes met only.
  exact mem_of_mem_outcomes listed

/-- No node is converted twice. -/
theorem KeepsBooks.converted_nodup {compile : Compiler σ} {document : Document} {searchPaths : List String}
    {registry : Registry} {compiler : σ} {conversion : Conversion σ}
    (books : KeepsBooks compile document searchPaths registry compiler conversion) :
    conversion.summary.converted.Nodup := by
  -- What was converted is a part of what was met, and nothing is met twice.
  rw [books.converted]
  exact books.distinct.sublist (successes_sublist ..)

/-! ### The records of a run -/

/-- A conversion keeps records when it keeps books within the network on entry, has stripped the nodes that
have a shader, and has changed no other node but the terminal, and none at all without a shader. -/
structure KeepsRecords (compile : Compiler σ) (document : Document) (searchPaths : List String)
    (registry : Registry) (compiler : σ) (origin : Network) (terminal : String) (conversion : Conversion σ) :
    Prop extends KeepsBooks compile document searchPaths registry compiler conversion where
  within : StaysWithin origin terminal conversion
  stripped : ∀ node entry,
    (node, some entry) ∈ outcomes compile document searchPaths conversion.summary.firstLevel compiler →
      conversion.network.nodes.get? node = some ⟨entry.identifier, Dict.empty, Dict.empty⟩
  unchanged : ∀ node, node ≠ terminal → node ∉ conversion.summary.converted →
    conversion.network.nodes.get? node = origin.nodes.get? node
  idle : conversion.summary.converted = [] → conversion.network = origin

/-- At the start no node was met. -/
theorem keepsRecords_start (compile : Compiler σ) (document : Document) (searchPaths : List String)
    (registry : Registry) (compiler : σ) (network : Network) (terminal : String) :
    KeepsRecords compile document searchPaths registry compiler network terminal
      ({ network, registry, compiler } : Conversion σ) where
  met _ := Iff.rfl
  distinct := List.nodup_nil
  state := rfl
  converted := rfl
  registered := rfl
  within := .start network registry compiler terminal
  -- Without outcomes there is nothing to strip.
  stripped _ _ done := absurd done List.not_mem_nil
  unchanged _ _ _ := rfl
  idle _ := rfl

namespace KeepsRecords

variable {compile : Compiler σ} {document : Document} {searchPaths : List String} {registry : Registry}
  {compiler : σ} {origin : Network} {terminal input : String} {conversion next : Conversion σ}
  {connection : Connection}

variable (records : KeepsRecords compile document searchPaths registry compiler origin terminal conversion)

include records

/-- A node that was converted has a shader that is found by its type. -/
theorem shader?_ne_none
    {node : String} (converted : node ∈ conversion.summary.converted) : conversion.shader? node ≠ none := by
  have success := converted
  rw [records.converted] at success
  obtain ⟨entry, listed⟩ := mem_successes_iff.1 success
  have registered : conversion.registry.find? entry.identifier ≠ none := by
    rw [records.registered]
    exact Registry.find?_ne_none_of_findTyped? (Registry.findTyped?_insertAll_ne_none
      (.inl ⟨entry, mem_entries listed, rfl, sourceType_of_mem_outcomes listed⟩))
  -- The node was stripped down to the identifier of its shader.
  have typed : conversion.network.type? node = some entry.identifier := by
    simp [Network.type?, records.stripped node entry listed]
  rw [shader?, if_pos converted, typed]
  exact registered

/-- Where the registry admits the shaders of all nodes met, each node that has one is found to have it. -/
theorem shader?_of_mem_outcomes
    (admits : registry.Admits
      (entries (outcomes compile document searchPaths conversion.summary.firstLevel compiler)))
    {node : String} {entry : ShaderEntry} (done : (node, some entry) ∈
      outcomes compile document searchPaths conversion.summary.firstLevel compiler) :
    conversion.shader? node = some entry := by
  -- The node has the identifier for its type, under which the entry was registered.
  have converted : node ∈ conversion.summary.converted :=
    records.converted ▸ mem_successes_iff.2 ⟨entry, done⟩
  have typed : conversion.network.type? node = some entry.identifier := by
    simp [Network.type?, records.stripped node entry done]
  rw [shader?, if_pos converted, typed, Option.bind_some, records.registered]
  exact admits.find?_insertAll (mem_entries done)

/-- A node that was converted is left with its type alone. -/
theorem get?_of_converted {node : String} (converted : node ∈ conversion.summary.converted) :
    ∃ type, conversion.network.nodes.get? node = some ⟨type, Dict.empty, Dict.empty⟩ := by
  -- A converted node is a success, and of that only the type is left.
  rw [records.converted] at converted
  obtain ⟨entry, listed⟩ := mem_successes_iff.1 converted
  exact ⟨entry.identifier, records.stripped node entry listed⟩

/-- A node that was converted reads nothing. -/
theorem input?_of_converted {node : String} (converted : node ∈ conversion.summary.converted)
    (slot : String) : conversion.network.input? node slot = none := by
  -- The record of a converted node has no connections.
  obtain ⟨type, record⟩ := records.get?_of_converted converted
  simp [Network.input?, record]

/-- A node that was converted has no parameters. -/
theorem parameter?_of_converted {node : String} (converted : node ∈ conversion.summary.converted)
    (name : String) : conversion.network.parameter? node name = none := by
  -- The record of a converted node has no parameters.
  obtain ⟨type, record⟩ := records.get?_of_converted converted
  simp [Network.parameter?, record]

/-- A node other than the terminal that was not converted reads what it read on entry. -/
theorem input?_of_unconverted {node : String} (apart : node ≠ terminal)
    (plain : node ∉ conversion.summary.converted) (slot : String) :
    conversion.network.input? node slot = origin.input? node slot := by
  -- Its record is the one that it had at the start.
  unfold Network.input?
  rw [records.unchanged node apart plain]

/-- A node that was met has a record. -/
theorem recorded
    {node : String} (met : node ∈ conversion.summary.firstLevel) : node ∈ conversion.network.nodeNames := by
  -- What was met had been present, and no step of the run removes a node.
  have kept := (records.met node).1 met
  exact Network.mem_nodeNames_of_hasNode
    ((records.within.derives.present node).trans (records.within.present_of_met kept))

/-- Pruning leaves the record of a node that was met. -/
theorem get?_met {node : String} (met : node ∈ conversion.summary.firstLevel) :
    (conversion.finish terminal).network.nodes.get? node = conversion.network.nodes.get? node :=
  -- Nodes that were met are anchors, which are not deleted.
  conversion.get?_finish terminal (.inr ⟨records.recorded met, (records.met node).1 met⟩)

/-- A node other than the terminal that was not met is pruned or keeps its record. -/
theorem get?_unmet {node : String} (unmet : node ∉ conversion.summary.firstLevel) (apart : node ≠ terminal) :
    (conversion.finish terminal).network.nodes.get? node =
      if node ∈ (conversion.finish terminal).summary.pruned then none else origin.nodes.get? node := by
  -- A node that was not met was not converted, so pruning alone can have changed it.
  have plain : node ∉ conversion.summary.converted :=
    fun converted => unmet (records.met_of_converted converted)
  rw [← records.unchanged node apart plain]
  exact Network.get?_deleteNodes _ _ node

/-- A node that is pruned had a record, and is neither one that was met nor the terminal. -/
theorem of_pruned {node : String} (pruned : node ∈ (conversion.finish terminal).summary.pruned) :
    node ∈ origin.nodeNames ∧ node ∉ conversion.summary.firstLevel ∧ node ≠ terminal := by
  have doomed : node ∈ conversion.network.prunable terminal conversion.candidates conversion.keep := pruned
  have recorded := Network.mem_nodeNames_of_hasNode (Network.mem_prunable_iff.1 doomed).2.1
  -- The terminal and the nodes that were met are anchors.
  have free : ¬(node = terminal ∨ (node ∈ conversion.network.nodeNames ∧
      (node ∈ Dict.keys conversion.keep ∨ node ∉ Dict.keys conversion.candidates))) :=
    fun anchored => Network.not_mem_prunable_of_anchor (Network.mem_anchors_iff.2 anchored) doomed
  refine ⟨(records.within.derives.records node).1 recorded, fun met => free ?_, fun same => free (.inl same)⟩
  exact .inr ⟨recorded, .inl ((records.met node).1 met)⟩

/-- Where nothing was converted, nothing is pruned and the network stays as it is. -/
theorem finish_of_idle (nothing : conversion.summary.converted = []) :
    (conversion.finish terminal).network = origin ∧ (conversion.finish terminal).summary.pruned = [] := by
  have same := records.idle nothing
  have prunable :
      conversion.network.prunable terminal conversion.candidates conversion.keep = [] := by
    rw [List.eq_nil_iff_forall_not_mem]
    intro node doomed
    obtain ⟨collected, _, unused⟩ := Network.mem_prunable_iff.1 doomed
    obtain ⟨first, met, draws⟩ := records.within.gathered node collected
    have recorded := records.recorded ((records.met first).2 met)
    -- In the network on entry, a node that was met draws on the collected one.
    rw [same] at unused recorded
    exact unused first (Network.mem_anchors_iff.2 (.inr ⟨recorded, .inl met⟩)) draws.to_reflTransGen
  refine ⟨?_, prunable⟩
  simp only [finish, Network.prune, prunable]
  exact same

/-- A node that is met and cannot be converted is entered into the records. -/
theorem fail {node : String} (read : conversion.network.Reads terminal node)
    (new : node ∉ Dict.keys conversion.keep)
    (nothing : (compiledShader compile document searchPaths node
      conversion.compiler).1.bind CompiledShader.entry? = none)
    (generated compiled : Nat) (warnings : List Warning) :
    KeepsRecords compile document searchPaths registry compiler origin terminal
      ((conversion.meet node).advance
        (compiledShader compile document searchPaths node conversion.compiler).2 generated compiled
        warnings) := by
  -- The outcome comes last, and without a shader it changes nothing else.
  have last := outcomes_append compile document searchPaths compiler conversion.summary.firstLevel node
  rw [← records.state, nothing] at last
  refine ⟨records.enter new nothing rfl rfl rfl (List.append_nil _).symm rfl,
    (records.within.meet read).advance _ _ _ _, fun other entry done => ?_, records.unchanged,
    records.idle⟩
  simp only [advance, meet] at done ⊢
  rw [last] at done
  exact records.stripped other entry (by simpa using done)

/-- A node with an outcome is not a terminal that still reads something, if it has a shader. -/
theorem ne_of_outcome (connected : conversion.network.input? terminal input = some connection)
    {node : String} {entry : ShaderEntry} (done : (node, some entry) ∈
      outcomes compile document searchPaths conversion.summary.firstLevel compiler) : node ≠ terminal := by
  rintro rfl
  -- A node with a shader was stripped, and so it reads nothing.
  have converted : node ∈ conversion.summary.converted :=
    records.converted ▸ mem_successes_iff.2 ⟨entry, done⟩
  simp [records.input?_of_converted converted] at connected

/-- Binding an input to the shader of a converted node keeps records. -/
theorem bind (connected : conversion.network.input? terminal input = some connection)
    (converted : connection.source ∈ conversion.summary.converted) (entry : ShaderEntry) :
    KeepsRecords compile document searchPaths registry compiler origin terminal
      (conversion.bind terminal input connection entry) := by
  have same : ∀ node, node ≠ terminal →
      (conversion.bind terminal input connection entry).network.nodes.get? node =
        conversion.network.nodes.get? node :=
    fun node => Network.get?_bindConverted_of_ne conversion.network input connection entry
  -- Only the terminal's record changes, and the terminal has no shader while it reads something.
  refine ⟨⟨records.met, records.distinct, records.state, records.converted, records.registered⟩,
    records.within.bind connected entry, fun node shader done => ?_, fun node apart plain => ?_,
    fun nothing => ?_⟩
  · exact (same node (records.ne_of_outcome connected done)).trans (records.stripped node shader done)
  · exact (same node apart).trans (records.unchanged node apart plain)
  -- The source of the input was converted, so this is not the idle case.
  · have none : conversion.summary.converted = [] := nothing
    simp [none] at converted

/-- A node that is met and converted to a shader is entered into the records. -/
theorem convert (connected : conversion.network.input? terminal input = some connection)
    (present : conversion.network.hasNode connection.source = true)
    (new : connection.source ∉ Dict.keys conversion.keep) {entry : ShaderEntry}
    (shader : (compiledShader compile document searchPaths connection.source
      conversion.compiler).1.bind CompiledShader.entry? = some entry)
    (generated compiled : Nat) (warnings : List Warning) :
    KeepsRecords compile document searchPaths registry compiler origin terminal
      (((conversion.meet connection.source).advance
        (compiledShader compile document searchPaths connection.source conversion.compiler).2
        generated compiled warnings).convert terminal input connection entry
          (conversion.registry.insert entry)) := by
  have others := fun node => get?_convert node ((conversion.meet connection.source).advance
    (compiledShader compile document searchPaths connection.source conversion.compiler).2
    generated compiled warnings) terminal input connection entry (conversion.registry.insert entry)
  have self := get?_convert_self ((conversion.meet connection.source).advance
    (compiledShader compile document searchPaths connection.source conversion.compiler).2
    generated compiled warnings) terminal input connection entry (conversion.registry.insert entry)
  -- The outcomes are those that there were and the shader of the node.
  have last := outcomes_append compile document searchPaths compiler conversion.summary.firstLevel
    connection.source
  rw [← records.state, shader] at last
  -- The identifier is the stem of a path, which is never empty.
  obtain ⟨artifact, _, made⟩ := Option.bind_eq_some_iff.1 shader
  have identified := Path.stem?_ne_empty (CompiledShader.stem?_path made)
  have met := records.within.meet ⟨present, input, _, connected, rfl⟩
  refine ⟨records.enter new shader rfl rfl rfl rfl rfl,
    (met.advance _ _ _ _).convert connected present identified _, fun node found done => ?_,
    fun node other plain => ?_, fun nothing => ?_⟩
  · have listed : (node, some found) ∈
        outcomes compile document searchPaths (conversion.summary.firstLevel ++ [connection.source])
          compiler := done
    rw [last, List.mem_append, List.mem_singleton] at listed
    rcases listed with old | now
    -- A node met before is another one, and keeps the shader that it got.
    · have away : connection.source ≠ node :=
        fun same => new ((records.met _).1 (same ▸ mem_of_mem_outcomes old))
      rw [others node (records.ne_of_outcome connected old), if_neg away]
      exact records.stripped node found old
    · simp only [Prod.mk.injEq, Option.some.injEq] at now
      rw [now.1, now.2]
      exact self
  -- A node that is still not converted is not the one that just was.
  · have both : node ∉ conversion.summary.converted ++ [connection.source] := plain
    simp only [List.mem_append, List.mem_singleton, not_or] at both
    rw [others node other, if_neg (Ne.symm both.2)]
    exact records.unchanged node other both.1
  · simp [Conversion.convert, Conversion.bind] at nothing

/-- Every transition keeps records. -/
theorem transition (moves : Transition compile document searchPaths terminal conversion input next) :
    KeepsRecords compile document searchPaths registry compiler origin terminal next := by
  have within := records.within.transition moves
  -- Only a node that is met for the first time is entered into the books.
  cases moves with
  | unconnected absent => exact records
  -- A warning changes neither the books nor the network.
  | dangling connected missing =>
    exact ⟨⟨records.met, records.distinct, records.state, records.converted, records.registered⟩,
      within, records.stripped, records.unchanged, records.idle⟩
  | unconverted connected present met plain => exact records
  | rebound connected present met shader =>
    exact records.bind connected (mem_converted_of_shader? (by simp [shader])) _
  | failed connected present new nothing =>
    exact records.fail ⟨present, input, _, connected, rfl⟩ new nothing _ _ _
  | converted connected present new shader =>
    exact records.convert connected present new shader _ _ _

/-- A whole run keeps records. -/
theorem run (inputs : List String) :
    KeepsRecords compile document searchPaths registry compiler origin terminal
      (Conversion.run compile document searchPaths terminal conversion inputs) := by
  unfold Conversion.run
  -- The records that each transition keeps, the next one starts from.
  induction inputs generalizing conversion with
  | nil => exact records
  | cons input rest ih =>
    exact ih (records.transition
      (step_transition compile document searchPaths terminal conversion input))

end KeepsRecords

end Conversion

end ShadeBake

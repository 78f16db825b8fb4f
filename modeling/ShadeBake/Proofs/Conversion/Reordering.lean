import ShadeBake.Proofs.Conversion.Answers
import ShadeBake.Proofs.Conversion.Pruning

/-! The order in which the inputs of a terminal are done does not matter: what a conversion leaves is told
by the network on entry and the shaders of its nodes. -/

namespace ShadeBake

namespace Network

/-- Records with the same type, parameters and inputs are the same. -/
theorem get?_congr {network other : Network} {node : String}
    (type : network.type? node = other.type? node)
    (parameters : ∀ name, network.parameter? node name = other.parameter? node name)
    (inputs : ∀ name, network.input? node name = other.input? node name) :
    network.nodes.get? node = other.nodes.get? node := by
  -- A record is its type, its parameters and its inputs, each of them seen by a look-up of its own.
  unfold type? parameter? input? at *
  cases record : network.nodes.get? node with
  | none =>
    cases record' : other.nodes.get? node with
    | none => rfl
    | some found => simp [record, record'] at type
  -- Both records exist, and their dictionaries have the same look-ups.
  | some one =>
    cases record' : other.nodes.get? node with
    | none => simp [record, record'] at type
    | some found =>
      simp only [record, record', Option.map_some, Option.some.injEq, Option.bind_some]
        at type parameters inputs
      obtain ⟨type₁, parameters₁, inputs₁⟩ := one
      obtain ⟨type₂, parameters₂, inputs₂⟩ := found
      simp only at type parameters inputs
      rw [type, Dict.ext_get? parameters, Dict.ext_get? inputs]

/-- Binding a terminal leaves the path of the material. -/
theorem materialPath_bindConverted (network : Network) (terminal input : String) (connection : Connection)
    (entry : ShaderEntry) :
    (network.bindConverted terminal input connection entry).1.materialPath = network.materialPath := by
  -- Binding changes the terminal's inputs in each of its branches.
  unfold bindConverted connectTerminal
  split
  · split
    · rfl
    · rfl
  · rfl

/-- Deleting the same nodes leaves the same network, in whichever order they are deleted. -/
theorem deleteNodes_congr (network : Network) {names others : List String}
    (same : ∀ name, name ∈ names ↔ name ∈ others) :
    network.deleteNodes names = network.deleteNodes others := by
  have nodes : (network.deleteNodes names).nodes = (network.deleteNodes others).nodes :=
    Dict.ext_get? fun node => by simp only [get?_deleteNodes, same]
  have terminals := (terminals_deleteNodes network names).trans (terminals_deleteNodes network others).symm
  have path := (materialPath_deleteNodes network names).trans (materialPath_deleteNodes network others).symm
  -- A network is its path, its nodes and its bindings.
  cases left : network.deleteNodes names
  cases right : network.deleteNodes others
  simp only [left, right] at nodes terminals path
  rw [nodes, terminals, path]

end Network

namespace Conversion

variable {σ : Type} {compile : Compiler σ} {document : Document} {searchPaths : List String}
  {registry : Registry} {compiler : σ} {origin : Network} {terminal input : String} {ahead : List String}
  {conversion next : Conversion σ} {connection : Connection}

/-- A transition leaves the path of the material. -/
theorem Transition.materialPath
    (moves : Transition compile document searchPaths terminal conversion input next) :
    next.network.materialPath = conversion.network.materialPath := by
  cases moves with
  | unconnected absent => rfl
  | dangling connected missing => rfl
  | unconverted connected present met plain => rfl
  | rebound connected present met shader => exact Network.materialPath_bindConverted ..
  | failed connected present new nothing => rfl
  -- Retyping and stripping a node are changes to records alone.
  | converted connected present new shader => exact Network.materialPath_bindConverted ..

/-- A run leaves the path of the material. -/
theorem materialPath_run (inputs : List String) :
    (Conversion.run compile document searchPaths terminal conversion inputs).network.materialPath =
      conversion.network.materialPath := by
  -- Each step keeps the path.
  unfold Conversion.run
  induction inputs generalizing conversion with
  | nil => rfl
  | cons input rest ih =>
    have moves := step_transition compile document searchPaths terminal conversion input
    exact ih.trans moves.materialPath

/-! ### Where the inputs land -/

/-- An input lands on its own slot where its source has no shader, and on the adapters' name for it where
the shader has the output. -/
def LandsOn (shader : Option ShaderEntry) (input : String) (connection : Connection) (slot : String) :
    Prop :=
  match shader with
  | none => slot = input
  | some entry => entry.hasOutput connection.output = true ∧ slot = adapterName input

/-- A slot that is bound to a shader reads the connection if the input lands on it, and else what it read,
unless it is the input's own. -/
theorem boundSlot_eq_some_iff {entry : ShaderEntry} {slot : String} {before : Option Connection}
    {read : Connection} :
    boundSlot (some entry) input connection slot before = some read ↔
      (LandsOn (some entry) input connection slot ∧ read = connection) ∨
        (slot ≠ input ∧ ¬LandsOn (some entry) input connection slot ∧ before = some read) := by
  have lands : LandsOn (some entry) input connection slot ↔
      slot = adapterName input ∧ entry.hasOutput connection.output = true := and_comm
  rw [lands]
  unfold boundSlot
  by_cases here : slot = adapterName input ∧ entry.hasOutput connection.output = true
  · simp [here, eq_comm]
  · simp only [here, if_false, false_and, not_false_eq_true, true_and, false_or]
    -- Where the input does not land, its own slot is emptied.
    by_cases own : slot = input
    · simp [own]
    · simp [own]

/-- The slots of a terminal are those where its inputs land, and the inputs ahead are on their own. -/
def Landed (shaders : String → Option ShaderEntry) (origin : Network) (terminal : String)
    (ahead : List String) (conversion : Conversion σ) : Prop :=
  ∀ slot connection, conversion.network.input? terminal slot = some connection ↔
    ∃ input, origin.input? terminal input = some connection ∧
      if input ∈ ahead then slot = input else LandsOn (shaders connection.source) input connection slot

/-- On a clear terminal, an input lands on no slot of another one. -/
theorem LandsOn.apart {shader : Option ShaderEntry} {other slot : String} {found : Connection}
    (clear : origin.Clear terminal) (connected : origin.input? terminal input = some connection)
    (connected' : origin.input? terminal other = some found) (distinct : other ≠ input)
    (lands : slot = other ∨ LandsOn shader other found slot) :
    slot ≠ input ∧ slot ≠ adapterName input := by
  obtain ⟨apart, moved, renamed⟩ := clear.slots_apart connected connected' distinct
  -- It is the other input's own slot or the adapters' name for that.
  have place : slot = other ∨ slot = adapterName other := by
    rcases lands with own | lands
    · exact .inl own
    · cases shader with
      | none => exact .inl lands
      | some entry => exact .inr lands.2
  rcases place with rfl | rfl
  · exact ⟨distinct, apart⟩
  · exact ⟨moved, renamed⟩

/-- Binding the next input lands it, and leaves the others where they are. -/
theorem Landed.bind {shaders : String → Option ShaderEntry} (clear : origin.Clear terminal)
    (landed : Landed shaders origin terminal (input :: ahead) conversion)
    (connected : origin.input? terminal input = some connection) (new : input ∉ ahead)
    (bound : ∀ slot, next.network.input? terminal slot =
      boundSlot (shaders connection.source) input connection slot
        (conversion.network.input? terminal slot)) :
    Landed shaders origin terminal ahead next := by
  intro slot read
  -- What is ahead of another input is ahead of it before and after.
  have others : ∀ other, other ≠ input → (other ∈ input :: ahead ↔ other ∈ ahead) :=
    fun other distinct => by simp [distinct]
  rw [bound]
  cases shader : shaders connection.source with
  | none =>
    refine (landed slot read).trans (exists_congr fun other => and_congr_right fun original => ?_)
    by_cases same : other = input
    -- Without a shader the input lands on its own slot, where it was.
    · subst same
      cases connected.symm.trans original
      simp [new, shader, LandsOn]
    · simp only [others other same]
  | some entry =>
    constructor
    · intro reads
      rcases boundSlot_eq_some_iff.1 reads with ⟨lands, rfl⟩ | ⟨free, _, before⟩
      · refine ⟨input, connected, ?_⟩
        rw [if_neg new, shader]
        exact lands
      · obtain ⟨other, original, lands⟩ := (landed slot read).1 before
        have distinct : other ≠ input := by
          rintro rfl
          rw [if_pos List.mem_cons_self] at lands
          exact free lands
        refine ⟨other, original, ?_⟩
        simpa only [others other distinct] using lands
    · rintro ⟨other, original, lands⟩
      by_cases same : other = input
      · subst same
        cases connected.symm.trans original
        rw [if_neg new, shader] at lands
        exact boundSlot_eq_some_iff.2 (.inl ⟨lands, rfl⟩)
      -- Another input lands on neither of the slots that are bound.
      · have place : slot = other ∨ LandsOn (shaders read.source) other read slot := by
          split at lands
          · exact .inl lands
          · exact .inr lands
        obtain ⟨away, renamed⟩ := LandsOn.apart clear connected original same place
        rw [boundSlot_of_ne away renamed]
        refine (landed slot read).2 ⟨other, original, ?_⟩
        simpa only [others other same] using lands

/-- The shader that a node of a network is compiled to at the start, if it exists and there is one. -/
def presentShader (compile : Compiler σ) (document : Document) (searchPaths : List String) (compiler : σ)
    (network : Network) (node : String) : Option ShaderEntry :=
  if network.hasNode node = true then shaderOf compile document searchPaths compiler node else none

section distinguishes

variable (distinguishes : compile.Distinguishes registry)
  (unread : ∀ input connection, origin.input? terminal input = some connection →
    connection.source ≠ terminal)

include distinguishes unread

/-- Every transition on a connected input binds it to the shader of its source. -/
theorem Transition.bound
    (records : KeepsRecords compile document searchPaths registry compiler origin terminal conversion)
    (connected : conversion.network.input? terminal input = some connection)
    (moves : Transition compile document searchPaths terminal conversion input next) (slot : String) :
    next.network.input? terminal slot =
      boundSlot (presentShader compile document searchPaths compiler origin connection.source) input
        connection slot (conversion.network.input? terminal slot) := by
  have known := Network.mem_nodeNames_of_input? connected
  have present := records.within.derives.present connection.source
  unfold presentShader
  cases moves with
  | unconnected absent => simp [absent] at connected
  | dangling connected' missing =>
    cases connected.symm.trans connected'
    rw [← present, if_neg (by simp [missing])]
    rfl
  -- A node that was met before has the shader that it is found to have.
  | unconverted connected' there met plain =>
    cases connected.symm.trans connected'
    have shader := records.shader?_eq_shaderOf distinguishes ((records.met _).2 met)
    rw [← present, if_pos there, ← shader, plain]
    rfl
  | rebound connected' there met found =>
    cases connected.symm.trans connected'
    have shader := records.shader?_eq_shaderOf distinguishes ((records.met _).2 met)
    rw [← present, if_pos there, ← shader, found]
    exact input?_bind conversion input connection _ slot known
  -- One that is met now is compiled as it would be at the start.
  | failed connected' there new nothing =>
    cases connected.symm.trans connected'
    rw [entry?_compiledShader document searchPaths compiler distinguishes] at nothing
    rw [← present, if_pos there, nothing]
    rfl
  | @converted _ entry generated compiled warnings connected' there new shader =>
    cases connected.symm.trans connected'
    rw [entry?_compiledShader document searchPaths compiler distinguishes] at shader
    obtain ⟨earlier, original⟩ := records.within.derives.inputs terminal input connection connected
    rw [← present, if_pos there, shader]
    exact input?_convert ((conversion.meet connection.source).advance
      (compiledShader compile document searchPaths connection.source conversion.compiler).2 generated
      compiled warnings) input entry (conversion.registry.insert entry)
      (unread earlier connection original) known slot

/-- After a run over all inputs of a clear terminal, they have landed. -/
theorem landed_run (clear : origin.Clear terminal) (inputs : List String) (nodup : inputs.Nodup)
    (connected : ∀ input ∈ inputs, ∃ connection, origin.input? terminal input = some connection)
    (records : KeepsRecords compile document searchPaths registry compiler origin terminal conversion)
    (landed : Landed (presentShader compile document searchPaths compiler origin) origin terminal inputs
      conversion) :
    Landed (presentShader compile document searchPaths compiler origin) origin terminal []
      (Conversion.run compile document searchPaths terminal conversion inputs) := by
  unfold Conversion.run
  -- The records and the slots that a transition leaves are those that the next one starts from.
  induction inputs generalizing conversion with
  | nil => exact landed
  | cons input rest ih =>
    rw [List.nodup_cons] at nodup
    obtain ⟨connection, original⟩ := connected input List.mem_cons_self
    have moves := step_transition compile document searchPaths terminal conversion input
    -- The next input is still on its own slot.
    have reads : conversion.network.input? terminal input = some connection :=
      (landed input connection).2 ⟨input, original, by rw [if_pos List.mem_cons_self]⟩
    exact ih nodup.2 (fun other inside => connected other (List.mem_cons_of_mem _ inside))
      (records.transition moves)
      (landed.bind clear original nodup.1 (moves.bound distinguishes unread records reads))

/-! ### What a run over all inputs leaves -/

/-- A conversion is exhaustive when it accounts for the nodes, has met exactly those that the terminal reads, and
all inputs have landed. -/
structure Exhaustive (compile : Compiler σ) (document : Document) (searchPaths : List String)
    (registry : Registry) (compiler : σ) (origin : Network) (terminal : String)
    (conversion : Conversion σ) : Prop extends
      Accounts compile document searchPaths registry compiler origin terminal conversion,
      Collects origin terminal conversion where
  read : ∀ node, node ∈ conversion.summary.firstLevel ↔ origin.Reads terminal node
  landed : Landed (presentShader compile document searchPaths compiler origin) origin terminal [] conversion
  parameters : ∀ name, conversion.network.parameter? terminal name = origin.parameter? terminal name
  path : conversion.network.materialPath = origin.materialPath

/-- A run over all inputs of a clear terminal that does not read itself is exhaustive, in whichever order they
are done. -/
theorem exhaustive_run (clear : origin.Clear terminal) {inputs : List String}
    (all : inputs.Perm (origin.inputNames terminal)) :
    Exhaustive compile document searchPaths registry compiler origin terminal
      (Conversion.run compile document searchPaths terminal { network := origin, registry, compiler }
        inputs) := by
  have nodup := all.nodup_iff.2 (origin.inputNames_nodup terminal)
  have connected : ∀ input ∈ inputs, ∃ connection, origin.input? terminal input = some connection :=
    fun input inside => Network.mem_inputNames_iff.1 (all.mem_iff.1 inside)
  have ahead : ∀ {input connection}, origin.input? terminal input = some connection → input ∈ inputs :=
    fun connected => all.mem_iff.2 (Network.mem_inputNames_iff.2 ⟨_, connected⟩)
  have starts := accounts_start compile document searchPaths registry compiler origin terminal
  have accounts := starts.run unread inputs
  have collects := (collects_start registry compiler origin terminal).run inputs starts.toKeepsRecords
  have visits := visits_run unread inputs nodup starts
    ⟨fun _ _ _ => rfl, fun _ _ connected _ done => absurd (ahead connected) done⟩
  have landed := landed_run distinguishes unread clear inputs nodup connected starts.toKeepsRecords
    fun slot connection => by
      constructor
      · exact fun reads => ⟨slot, reads, by rw [if_pos (ahead reads)]⟩
      · rintro ⟨input, reads, own⟩
        rw [if_pos (ahead reads)] at own
        exact own ▸ reads
  -- The terminal does not read itself, and so it is not converted.
  have plain : terminal ∉ (Conversion.run compile document searchPaths terminal
      { network := origin, registry, compiler } inputs).summary.converted :=
    fun converted => accounts.ne_of_met unread (accounts.met_of_converted converted) rfl
  refine ⟨accounts, collects, fun node => ?_, landed, (own_run inputs plain).2, materialPath_run inputs⟩
  rw [accounts.met]
  constructor
  · exact accounts.within.kept node
  -- None of the inputs has a name that is kept for another one, so each was visited.
  · rintro ⟨present, input, connection, reads, rfl⟩
    refine visits.met input connection reads (fun reserved => ?_) List.not_mem_nil present
    obtain ⟨pair, inside, rfl⟩ := List.mem_map.1 reserved
    simp [clear pair inside] at reads

end distinguishes

namespace Exhaustive

variable (distinguishes : compile.Distinguishes registry)
  (one : Exhaustive compile document searchPaths registry compiler origin terminal conversion)
  (other : Exhaustive compile document searchPaths registry compiler origin terminal next)

include distinguishes one

/-- An exhaustive conversion converts the nodes that the terminal reads and that have a shader. -/
theorem mem_converted_iff {node : String} :
    node ∈ conversion.summary.converted ↔ origin.Reads terminal node ∧
      shaderOf compile document searchPaths compiler node ≠ none := by
  -- What is converted is read by the terminal and has a shader, in whatever order the inputs are taken.
  rw [one.toKeepsRecords.mem_converted_iff distinguishes, one.read]

include other

/-- Two exhaustive conversions leave the same record of each node. -/
theorem get?_eq (node : String) : conversion.network.nodes.get? node = next.network.nodes.get? node := by
  by_cases self : node = terminal
  -- The terminal has the type and parameters that it had, and its inputs have landed.
  · subst self
    refine Network.get?_congr (Network.type?_congr (one.typed.trans other.typed.symm) ?_)
      (fun name => (one.parameters name).trans (other.parameters name).symm) fun slot => ?_
    · rw [one.within.derives.records, other.within.derives.records]
    · exact Option.ext fun connection => (one.landed slot connection).trans (other.landed slot connection).symm
  -- A converted node has the shader's record, and any other has its own.
  · by_cases converted : node ∈ conversion.summary.converted
    · obtain ⟨reads, some⟩ := (one.mem_converted_iff distinguishes).1 converted
      obtain ⟨entry, shader⟩ := Option.ne_none_iff_exists'.1 some
      rw [one.toKeepsRecords.get?_of_shaderOf distinguishes ((one.read node).2 reads) shader,
        other.toKeepsRecords.get?_of_shaderOf distinguishes ((other.read node).2 reads) shader]
    · have plain : node ∉ next.summary.converted := fun there =>
        converted ((one.mem_converted_iff distinguishes).2 ((other.mem_converted_iff distinguishes).1 there))
      rw [one.unchanged node self converted, other.unchanged node self plain]

/-- Two exhaustive conversions leave the same network. -/
theorem network_eq : conversion.network = next.network := by
  -- A network is its nodes, its bindings and its path, and each of these does not depend on the order.
  have nodes : conversion.network.nodes = next.network.nodes :=
    Dict.ext_get? (one.get?_eq distinguishes other)
  have terminals : conversion.network.terminals = next.network.terminals :=
    one.within.derives.bindings.trans other.within.derives.bindings.symm
  have path : conversion.network.materialPath = next.network.materialPath := one.path.trans other.path.symm
  cases left : conversion.network
  cases right : next.network
  simp only [left, right] at nodes terminals path
  rw [nodes, terminals, path]

/-- Two exhaustive conversions prune the same nodes. -/
theorem mem_pruned_iff (node : String) :
    node ∈ (conversion.finish terminal).summary.pruned ↔ node ∈ (next.finish terminal).summary.pruned := by
  have met : ∀ node, origin.Reads terminal node → node ∈ Dict.keys conversion.keep :=
    fun node reads => (one.met node).1 ((one.read node).2 reads)
  have met' : ∀ node, origin.Reads terminal node → node ∈ Dict.keys next.keep :=
    fun node reads => (other.met node).1 ((other.read node).2 reads)
  -- What is prunable is told by the network on entry and the one that is left.
  refine (one.toCollects.mem_prunable_iff one.within met).trans ?_
  rw [one.network_eq distinguishes other]
  exact (other.toCollects.mem_prunable_iff other.within met').symm

/-- Two exhaustive conversions leave the same network once it is pruned. -/
theorem network_finish_eq : (conversion.finish terminal).network = (next.finish terminal).network :=
  -- The two runs prune the same nodes, from equal networks.
  calc conversion.network.deleteNodes (conversion.finish terminal).summary.pruned
    _ = conversion.network.deleteNodes (next.finish terminal).summary.pruned :=
      Network.deleteNodes_congr _ (one.mem_pruned_iff distinguishes other)
    _ = next.network.deleteNodes (next.finish terminal).summary.pruned := by
      rw [one.network_eq distinguishes other]

end Exhaustive

end Conversion

/-- The order in which the inputs of a terminal are done does not matter: where the terminal does not read
itself, none of its inputs has a name that the adapters have for another one, and the compiler distinguishes
requests, all orders leave the same network and convert and prune the same nodes. -/
theorem Network.finish_run_perm {σ : Type} (compile : Compiler σ) (document : Document)
    (searchPaths : List String) (registry : Registry) (compiler : σ) (network : Network) (terminal : String)
    (unread : ∀ input connection, network.input? terminal input = some connection →
      connection.source ≠ terminal)
    (clear : network.Clear terminal) (distinguishes : compile.Distinguishes registry)
    {inputs others : List String} (all : inputs.Perm (network.inputNames terminal))
    (all' : others.Perm (network.inputNames terminal)) :
    let done := fun names => (Conversion.run compile document searchPaths terminal
      { network, registry, compiler } names).finish terminal
    (done inputs).network = (done others).network ∧
    (∀ node, node ∈ (done inputs).summary.converted ↔ node ∈ (done others).summary.converted) ∧
    ∀ node, node ∈ (done inputs).summary.pruned ↔ node ∈ (done others).summary.pruned := by
  intro done
  -- A run over all inputs is exhaustive, whatever their order.
  have exhausts : ∀ {names : List String}, names.Perm (network.inputNames terminal) →
      Conversion.Exhaustive compile document searchPaths registry compiler network terminal
        (Conversion.run compile document searchPaths terminal { network, registry, compiler } names) :=
    fun all => Conversion.exhaustive_run distinguishes unread clear all
  have one := exhausts all
  have other := exhausts all'
  -- Pruning comes last and leaves the list of the converted nodes.
  exact ⟨one.network_finish_eq distinguishes other,
    fun _ => (one.mem_converted_iff distinguishes).trans (other.mem_converted_iff distinguishes).symm,
    one.mem_pruned_iff distinguishes other⟩

namespace Conversion.Mixed

/-- A compiler that makes a shader of the source for the first of the two nodes, and of nothing else. -/
def compile : Compiler Unit := fun name source state =>
  if name = shaderNameFor "/M/a" ∧ some source = (Shader.generate Emissive.document []
      (shaderNameFor "/M/a") (NodePath.leaf "/M/a") (NodePath.parent "/M/a")).toOption then
    (⟨some ⟨"sum.oso", .ok "shader sum\noparam float out"⟩, []⟩, state)
  else (⟨none, []⟩, state)

/-- The one request that has a shader is known from its shader. -/
theorem distinguishes : compile.Distinguishes Registry.empty where
  steady _ _ _ _ := rfl
  apart := by
    -- An artifact comes only from the one request that the compiler answers.
    intro name source name' source' _ _ _ _ _ answered answered' _ _
    unfold compile at answered answered'
    split at answered
    · split at answered'
      · rename_i first second
        exact ⟨first.1.trans second.1.symm, Option.some.inj (first.2.trans second.2.symm)⟩
      · simp at answered'
    · simp at answered
  free _ _ := rfl

/-- The first of the two nodes has a shader. -/
theorem shaderOf_first : shaderOf compile Emissive.document [] () "/M/a" ≠ none := by
  obtain ⟨source, generated⟩ := Emissive.generate_ok
  have made : (CompiledShader.entry? ⟨"sum.oso", .ok "shader sum\noparam float out"⟩).isSome = true := by cbv
  -- The source is the one that the compiler makes the shader of.
  have answer : compile (shaderNameFor "/M/a") source () =
      (⟨some ⟨"sum.oso", .ok "shader sum\noparam float out"⟩, []⟩, ()) := by
    unfold compile
    rw [generated, if_pos ⟨rfl, rfl⟩]
  simp only [shaderOf, compiledShader, generated, answer, Option.bind_some]
  exact Option.isSome_iff_ne_none.1 made

/-- Whichever of the two inputs is done first, the first node is converted and the same network is left. -/
theorem order :
    (∀ input connection, network.input? "/M/t" input = some connection → connection.source ≠ "/M/t") ∧
    network.Clear "/M/t" ∧ compile.Distinguishes Registry.empty ∧
    let done := fun names => (run compile Emissive.document [] "/M/t" start names).finish "/M/t"
    (done ["base", "coat"]).network = (done ["coat", "base"]).network ∧
    "/M/a" ∈ (done ["base", "coat"]).summary.converted ∧
    "/M/a" ∈ (done ["coat", "base"]).summary.converted := by
  -- Both orders list all inputs, so that the general statement applies to them.
  have unread : ∀ input connection, network.input? "/M/t" input = some connection →
      connection.source ≠ "/M/t" := Network.source_ne_of_inputs (by decide)
  have clear : network.Clear "/M/t" := by decide
  have inputs : network.inputNames "/M/t" = ["base", "coat"] := by decide
  have all : ["base", "coat"].Perm (network.inputNames "/M/t") := inputs ▸ List.Perm.refl _
  have all' : ["coat", "base"].Perm (network.inputNames "/M/t") := inputs ▸ List.Perm.swap ..
  obtain ⟨same, converted, _⟩ := Network.finish_run_perm compile Emissive.document [] Registry.empty ()
    network "/M/t" unread clear distinguishes all all'
  -- The terminal reads the node, which has a shader.
  have reads : network.Reads "/M/t" "/M/a" := ⟨by decide, "base", ⟨"/M/a", "out"⟩, by decide, rfl⟩
  have first := ((exhaustive_run distinguishes unread clear all).mem_converted_iff distinguishes).2
    ⟨reads, shaderOf_first⟩
  exact ⟨unread, clear, distinguishes, same, first, (converted "/M/a").1 first⟩

end Conversion.Mixed

end ShadeBake

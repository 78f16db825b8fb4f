import ShadeBake.Proofs.Conversion.Books
import ShadeBake.Proofs.Conversion.Rewiring

/-! What becomes of each node: one that was converted takes the type of its shader and loses all else, one
that could not be converted keeps its record, and all others are pruned or keep theirs. -/

namespace ShadeBake

namespace Conversion

variable {σ : Type}

/-- A conversion accounts for the nodes when it keeps records of them, and the terminal has its type yet. -/
structure Accounts (compile : Compiler σ) (document : Document) (searchPaths : List String)
    (registry : Registry) (compiler : σ) (origin : Network) (terminal : String) (conversion : Conversion σ) :
    Prop extends
      KeepsRecords compile document searchPaths registry compiler origin terminal conversion where
  typed : conversion.network.typeOf terminal = origin.typeOf terminal

/-- At the start no node was met. -/
theorem accounts_start (compile : Compiler σ) (document : Document) (searchPaths : List String)
    (registry : Registry) (compiler : σ) (network : Network) (terminal : String) :
    Accounts compile document searchPaths registry compiler network terminal
      ({ network, registry, compiler } : Conversion σ) :=
  -- No node has an outcome, and the compiler was not asked.
  ⟨keepsRecords_start compile document searchPaths registry compiler network terminal, rfl⟩

section unread

variable {compile : Compiler σ} {document : Document} {searchPaths : List String} {registry : Registry}
  {compiler : σ} {origin : Network} {terminal input : String} {conversion next : Conversion σ}

variable (unread : ∀ input connection, origin.input? terminal input = some connection →
  connection.source ≠ terminal)

include unread

/-- A terminal that does not read itself is not met. -/
theorem KeepsRecords.ne_of_met
    (records : KeepsRecords compile document searchPaths registry compiler origin terminal conversion)
    {node : String} (met : node ∈ conversion.summary.firstLevel) : node ≠ terminal := by
  -- What was met is a source of the terminal, and that does not read itself.
  obtain ⟨_, input, connection, connected, rfl⟩ := records.within.kept _ ((records.met _).1 met)
  exact unread input connection connected

variable (accounts : Accounts compile document searchPaths registry compiler origin terminal conversion)

include accounts

/-- Every transition is accounted for. -/
theorem Accounts.transition
    (moves : Transition compile document searchPaths terminal conversion input next) :
    Accounts compile document searchPaths registry compiler origin terminal next := by
  have records := accounts.toKeepsRecords.transition moves
  -- The terminal does not read itself, and so it is not converted.
  have plain : terminal ∉ next.summary.converted :=
    fun converted => records.ne_of_met unread (records.met_of_converted converted) rfl
  exact ⟨records, (moves.own plain).1.trans accounts.typed⟩

/-- A whole run is accounted for. -/
theorem Accounts.run (inputs : List String) :
    Accounts compile document searchPaths registry compiler origin terminal
      (Conversion.run compile document searchPaths terminal conversion inputs) := by
  unfold Conversion.run
  -- What each transition accounts for, the next one starts from.
  induction inputs generalizing conversion with
  | nil => exact accounts
  | cons input rest ih =>
    exact ih (accounts.transition unread
      (step_transition compile document searchPaths terminal conversion input))

end unread

/-! ### The nodes that are met -/

/-- A terminal is visited up to the inputs ahead: of the inputs with some property, those ahead read what they
read, and the sources of all others that exist were met. -/
structure VisitsWhere (own : String → Prop) (origin : Network) (terminal : String) (ahead : List String)
    (conversion : Conversion σ) : Prop where
  pending : ∀ input ∈ ahead, own input →
    conversion.network.input? terminal input = origin.input? terminal input
  met : ∀ input connection, origin.input? terminal input = some connection →
    own input → input ∉ ahead → origin.hasNode connection.source = true →
      connection.source ∈ Dict.keys conversion.keep

section visits

variable {compile : Compiler σ} {document : Document} {searchPaths : List String} {registry : Registry}
  {compiler : σ} {own : String → Prop} {origin : Network} {terminal input : String} {ahead : List String}
  {conversion next : Conversion σ}

/-- Doing the next input visits its source, as long as it takes no tracked slot: the adapters' name for it is none,
or its source is not converted. -/
theorem VisitsWhere.transition (visits : VisitsWhere own origin terminal (input :: ahead) conversion)
    (distinct : input ∉ ahead)
    (apart : ∀ slot ∈ ahead, own slot → slot = adapterName input → ∀ connection,
      conversion.network.input? terminal input = some connection →
        connection.source ∉ next.summary.converted)
    (within : StaysWithin origin terminal conversion) (plain : terminal ∉ next.summary.converted)
    (moves : Transition compile document searchPaths terminal conversion input next) :
    VisitsWhere own origin terminal ahead next := by
  refine ⟨fun slot inside isOwn => ?_, fun slot connection original isOwn done present => ?_⟩
  · have before := visits.pending slot (List.mem_cons_of_mem _ inside) isOwn
    rcases moves.slots with ⟨same, _, _⟩ | ⟨connection, entry, reads, taken, bound, _⟩ | ⟨converted, _⟩
    · exact (same slot).trans before
    -- The slots that are bound are those of the input that is done.
    · have other : slot ≠ input := fun equal => distinct (equal ▸ inside)
      have free : slot ≠ adapterName input := fun equal => apart slot inside isOwn equal connection reads taken
      rw [bound, boundSlot_of_ne other free, before]
    · exact absurd converted plain
  -- An input that is done is the one just done, or its source was met before.
  · by_cases here : slot = input
    · subst here
      have reads := (visits.pending slot List.mem_cons_self isOwn).trans original
      exact moves.meets reads ((within.derives.present _).trans present)
    · exact moves.keeps _ (visits.met slot connection original isOwn (by simp [here, done]) present)

/-- A run over inputs visits them, as long as no tracked slot is taken by an input before it: where the adapters'
name for a tracked input is that slot, its source is not converted in the run. -/
theorem visitsWhere_run (unread : ∀ input connection, origin.input? terminal input = some connection →
      connection.source ≠ terminal)
    (inputs : List String) (distinct : inputs.Nodup)
    (apart : inputs.Pairwise fun input slot => own slot → slot = adapterName input →
      own input ∧ ∀ connection, origin.input? terminal input = some connection → connection.source ∉
        (Conversion.run compile document searchPaths terminal conversion inputs).summary.converted)
    (accounts : Accounts compile document searchPaths registry compiler origin terminal conversion)
    (visits : VisitsWhere own origin terminal inputs conversion) :
    VisitsWhere own origin terminal []
      (Conversion.run compile document searchPaths terminal conversion inputs) := by
  induction inputs generalizing conversion with
  | nil => exact visits
  | cons input rest ih =>
    rw [List.nodup_cons] at distinct
    rw [List.pairwise_cons] at apart
    have moves := step_transition compile document searchPaths terminal conversion input
    have next := accounts.transition unread moves
    -- The terminal does not read itself, and so it is not converted.
    have plain : terminal ∉ (step compile document searchPaths terminal conversion input).summary.converted :=
      fun converted => next.ne_of_met unread (next.met_of_converted converted) rfl
    refine ih distinct.2 apart.2 next (visits.transition distinct.1
      (fun slot inside isOwn same connection reads => ?_)
      accounts.within plain moves)
    -- What is converted on the way is converted in the end.
    obtain ⟨tracked, unconverted⟩ := apart.1 slot inside isOwn same
    exact fun converted => unconverted connection
      ((visits.pending input List.mem_cons_self tracked).symm.trans reads)
      (mem_converted_run compile document searchPaths terminal rest converted)

/-- A terminal is visited up to the inputs ahead when it is in its inputs of names that the adapters have for no
other input. -/
abbrev Visits (origin : Network) (terminal : String) (ahead : List String) (conversion : Conversion σ) : Prop :=
  VisitsWhere (· ∉ reservedInputs.map (·.2)) origin terminal ahead conversion

/-- A slot that is neither an input's own nor of the adapters' names is none that they have for the input. -/
theorem ne_adapterName_of_not_mem {slot : String} (apart : slot ≠ input)
    (own : slot ∉ reservedInputs.map (·.2)) : slot ≠ adapterName input := by
  -- An adapter's name is the input's own or a name that is reserved for adapters.
  rintro rfl
  exact (adapterName_eq_or_mem input).elim apart own

/-- Doing the next input visits its source. -/
theorem Visits.transition (visits : Visits origin terminal (input :: ahead) conversion)
    (distinct : input ∉ ahead) (within : StaysWithin origin terminal conversion)
    (plain : terminal ∉ next.summary.converted)
    (moves : Transition compile document searchPaths terminal conversion input next) :
    Visits origin terminal ahead next :=
  -- An input that is not done yet keeps its connection, as no other input takes its name.
  VisitsWhere.transition visits distinct (fun _ inside own same =>
    absurd same (ne_adapterName_of_not_mem (fun equal => distinct (equal ▸ inside)) own)) within plain moves

/-- A run over all inputs of a terminal visits it. -/
theorem visits_run (unread : ∀ input connection, origin.input? terminal input = some connection →
      connection.source ≠ terminal)
    (inputs : List String) (distinct : inputs.Nodup)
    (accounts : Accounts compile document searchPaths registry compiler origin terminal conversion)
    (visits : Visits origin terminal inputs conversion) :
    Visits origin terminal [] (Conversion.run compile document searchPaths terminal conversion inputs) :=
  -- Inputs are done once, so the slot of one is not the slot that another is moved to.
  visitsWhere_run unread inputs distinct (distinct.imp fun apart own same =>
    absurd same (ne_adapterName_of_not_mem (Ne.symm apart) own)) accounts visits

end visits

end Conversion

/-- At the start, all inputs are ahead and read what they read. -/
theorem Conversion.visits_start {σ : Type} (registry : Registry) (compiler : σ) (network : Network)
    (terminal : String) :
    Visits network terminal (network.inputNames terminal)
      ({ network, registry, compiler } : Conversion σ) where
  pending _ _ _ := rfl
  met _ connection connected _ done _ :=
    -- No input has been done, so every one is still ahead.
    absurd (Network.mem_inputNames_iff.2 ⟨connection, connected⟩) done

/-- What becomes of the nodes when the inputs of a terminal that does not read itself are converted. The
nodes met are those that the terminal reads, but for inputs whose names the adapters have for another one.
A node met with a shader is left with the shader's identifier as its type and nothing else, a node met without
one keeps its record, and any other node but the terminal is pruned or keeps its record. Without a single
shader the network stays as it is. -/
theorem Network.convertInputs_outcomes {σ : Type} (compile : Compiler σ) (document : Document)
    (searchPaths : List String) (registry : Registry) (compiler : σ) (network : Network) (terminal : String)
    (unread : ∀ input connection, network.input? terminal input = some connection →
      connection.source ≠ terminal) :
    let after := network.convertInputs compile document searchPaths registry compiler terminal
    let outcomes := Conversion.outcomes compile document searchPaths after.summary.firstLevel compiler
    (after.summary.firstLevel.Nodup ∧ (∀ node ∈ after.summary.firstLevel, network.Reads terminal node) ∧
      ∀ input connection, network.input? terminal input = some connection →
        network.hasNode connection.source = true → input ∉ reservedInputs.map (·.2) →
          connection.source ∈ after.summary.firstLevel) ∧
    (after.summary.converted = Conversion.successes outcomes ∧
      after.registry = registry.insertAll (Conversion.entries outcomes)) ∧
    (∀ node entry, (node, some entry) ∈ outcomes →
      after.registry.findTyped? entry.identifier ShaderEntry.shaderType ≠ none ∧
      after.network.nodes.get? node = some ⟨entry.identifier, Dict.empty, Dict.empty⟩) ∧
    (∀ node, (node, none) ∈ outcomes → node ∉ after.summary.converted ∧
      node ∈ after.network.nodeNames ∧ after.network.nodes.get? node = network.nodes.get? node) ∧
    (∀ node, node ∉ after.summary.firstLevel → node ≠ terminal →
      after.network.nodes.get? node =
        if node ∈ after.summary.pruned then none else network.nodes.get? node) ∧
    (∀ node ∈ after.summary.pruned,
      node ∈ network.nodeNames ∧ node ∉ after.summary.firstLevel ∧ node ≠ terminal) ∧
    after.network.terminals = network.terminals ∧
    (after.summary.converted = [] → after.network = network ∧ after.summary.pruned = []) := by
  intro after outcomes
  have starts := Conversion.accounts_start compile document searchPaths registry compiler network terminal
  have accounts := starts.run unread (network.inputNames terminal)
  have visits := Conversion.visits_run unread _ (network.inputNames_nodup terminal) starts
    (Conversion.visits_start registry compiler network terminal)
  -- Pruning comes after the run, and changes neither the summary of the nodes met nor the registry.
  generalize made : Conversion.run compile document searchPaths terminal
    { network, registry, compiler } (network.inputNames terminal) = conversion at accounts visits
  have final : after = conversion.finish terminal := made ▸ rfl
  have listed : outcomes =
      Conversion.outcomes compile document searchPaths conversion.summary.firstLevel compiler :=
    congrArg (fun nodes => Conversion.outcomes compile document searchPaths nodes compiler)
      (congrArg (·.summary.firstLevel) final)
  clear_value after outcomes
  subst final listed
  refine ⟨⟨accounts.distinct, fun node met => ?_, fun input connection connected present own => ?_⟩,
    ⟨accounts.converted, accounts.registered⟩, fun node entry done => ⟨?_, ?_⟩, fun node failed => ?_,
    fun node => accounts.get?_unmet, fun node => accounts.of_pruned, ?_, accounts.finish_of_idle⟩
  · exact accounts.within.kept node ((accounts.met node).1 met)
  · exact (accounts.met _).2 (visits.met input connection connected own List.not_mem_nil present)
  -- The shader of a converted node is among those that are registered.
  · have registered : (conversion.finish terminal).registry = registry.insertAll (Conversion.entries
        (Conversion.outcomes compile document searchPaths conversion.summary.firstLevel compiler)) :=
      accounts.registered
    rw [registered]
    exact Registry.findTyped?_insertAll_ne_none
      (.inl ⟨entry, Conversion.mem_entries done, rfl, Conversion.sourceType_of_mem_outcomes done⟩)
  · rw [accounts.get?_met (Conversion.mem_of_mem_outcomes done)]
    exact accounts.stripped node entry done
  -- A node without a shader is kept by pruning and was not changed before.
  · have met := Conversion.mem_of_mem_outcomes failed
    have plain : node ∉ conversion.summary.converted := by
      rw [accounts.converted]
      exact Conversion.not_mem_successes accounts.distinct failed
    have same := accounts.get?_met met
    refine ⟨plain, ?_, same.trans (accounts.unchanged node (accounts.ne_of_met unread met) plain)⟩
    rw [mem_nodeNames_iff, same, ← mem_nodeNames_iff]
    exact accounts.recorded met
  · exact (terminals_deleteNodes _ _).trans accounts.within.derives.bindings

namespace Conversion.Mixed

/-- A surface that reads two nodes, each of which reads another one. -/
def network : Network where
  materialPath := "/M"
  nodes := Dict.ofList [
    ("/M/a", ⟨"add", Dict.empty, Dict.ofList [("in1", ⟨"/M/b", "out"⟩)]⟩),
    ("/M/b", ⟨"noise", Dict.empty, Dict.empty⟩),
    ("/M/c", ⟨"add", Dict.empty, Dict.ofList [("in1", ⟨"/M/d", "out"⟩)]⟩),
    ("/M/d", ⟨"noise", Dict.empty, Dict.empty⟩),
    ("/M/t", ⟨"surface", Dict.empty, Dict.ofList [("base", ⟨"/M/a", "out"⟩), ("coat", ⟨"/M/c", "out"⟩)]⟩)]
  terminals := Dict.empty

/-- The conversion at its start. -/
def start : Conversion Unit := { network, registry := Registry.empty, compiler := () }

/-- The first input has its source compiled. -/
theorem step_base :
    step Emissive.compile Emissive.document [] "/M/t" start "base" =
      compileNode Emissive.compile Emissive.document [] (start.meet "/M/a") "/M/t" "base" ⟨"/M/a", "out"⟩ := by
  -- The source of the first input is new and present, so it is compiled.
  have connected : start.network.input? "/M/t" "base" = some ⟨"/M/a", "out"⟩ := by decide
  exact step_of_new _ _ _ connected (by decide) List.not_mem_nil

/-- Both nodes are met, and what fed the one that is converted is pruned. -/
theorem summary :
    let after := network.convertInputs Emissive.compile Emissive.document [] Registry.empty () "/M/t"
    (after.summary.firstLevel, after.summary.pruned) = (["/M/a", "/M/c"], ["/M/b"]) := by
  -- The first compilation is known, and what follows is evaluated.
  have inputs : network.inputNames "/M/t" = ["base", "coat"] := by decide
  have begins : ({ network, registry := Registry.empty, compiler := () } : Conversion Unit) = start := rfl
  simp only [Network.convertInputs, inputs, run, List.foldl_cons, begins, step_base, Emissive.compileNode_found]
  cbv

/-- Of the two nodes, the first alone is compiled to a shader. -/
theorem compiled :
    ∃ entry, entry.identifier = "sum" ∧
      outcomes Emissive.compile Emissive.document [] ["/M/a", "/M/c"] () =
        [("/M/a", some entry), ("/M/c", none)] := by
  obtain ⟨source, generated⟩ := Emissive.generate_ok
  -- The document does not hold the second node.
  have missing : (Shader.generate Emissive.document [] (shaderNameFor "/M/c") (NodePath.leaf "/M/c")
      (NodePath.parent "/M/c")).toOption = none := by cbv
  have failed : (compiledShader Emissive.compile Emissive.document [] "/M/c" ()).1 = none := by
    unfold compiledShader
    cases result : Shader.generate Emissive.document [] (shaderNameFor "/M/c") (NodePath.leaf "/M/c")
        (NodePath.parent "/M/c") with
    | error warning => rfl
    | ok source => simp [result, Except.toOption] at missing
  -- The text that the compiler gives declares one output.
  have found : (CompiledShader.entry? ⟨"sum.oso", .ok "shader sum\noparam float out"⟩).map
      (·.identifier) = some "sum" := by cbv
  obtain ⟨entry, made, named⟩ := Option.map_eq_some_iff.1 found
  have shader : compiledShader Emissive.compile Emissive.document [] "/M/a" () =
      (some ⟨"sum.oso", .ok "shader sum\noparam float out"⟩, ()) := by
    simp only [compiledShader, generated, Emissive.compile]
  refine ⟨entry, named, ?_⟩
  simp only [outcomes, shader, failed, Option.bind_some, Option.bind_none, made]

/-- The node with a shader is left with its type alone and the one without keeps its record. What fed the
former is pruned, and what feeds the latter stays. -/
theorem degrades :
    (∀ input connection, network.input? "/M/t" input = some connection → connection.source ≠ "/M/t") ∧
    let after := network.convertInputs Emissive.compile Emissive.document [] Registry.empty () "/M/t"
    after.summary.converted = ["/M/a"] ∧
    after.network.nodes.get? "/M/a" = some ⟨"sum", Dict.empty, Dict.empty⟩ ∧
    after.network.nodes.get? "/M/b" = none ∧
    after.network.nodes.get? "/M/c" = network.nodes.get? "/M/c" ∧
    after.network.nodes.get? "/M/d" = network.nodes.get? "/M/d" := by
  -- The general statement is read at each of the four nodes, by what became of it.
  have unread : ∀ input connection, network.input? "/M/t" input = some connection →
      connection.source ≠ "/M/t" := Network.source_ne_of_inputs (by decide)
  refine ⟨unread, ?_⟩
  intro after
  obtain ⟨_, ⟨converted, _⟩, stripped, kept, others, _⟩ := Network.convertInputs_outcomes Emissive.compile
    Emissive.document [] Registry.empty () network "/M/t" unread
  obtain ⟨firstLevel, pruned⟩ := Prod.mk.inj summary
  obtain ⟨entry, named, outcomes⟩ := compiled
  simp only [firstLevel, outcomes, pruned] at converted stripped kept others
  -- The first was converted, the second is pruned with it, and the others stay as they are.
  refine ⟨converted, ?_, ?_, ?_, ?_⟩
  · rw [← named]
    exact (stripped "/M/a" entry (by simp)).2
  · exact others "/M/b" (by decide) (by decide)
  · exact (kept "/M/c" (by simp)).2.2
  · exact others "/M/d" (by decide) (by decide)

end Conversion.Mixed

end ShadeBake

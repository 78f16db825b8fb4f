import ShadeBake.Proofs.Conversion.Coverage
import ShadeBake.Proofs.Conversion.Placement

/-! What a conversion asks of the compiler: one shader for each node that the terminal reads and that has a
source, in the order in which the inputs first read them. -/

namespace ShadeBake

/-- A compiler that behaves as the given one and keeps a list of the names and sources that it is called with. -/
def Compiler.recording {σ : Type} (compile : Compiler σ) : Compiler (σ × List (String × String)) :=
  fun name source (state, requests) =>
    let (compilation, next) := compile name source state
    (compilation, next, requests ++ [(name, source)])

/-- The name and the source that the compiler is called with for a node of a document, if there is a source. -/
def Document.request? (document : Document) (searchPaths : List String) (node : String) : Option (String × String) :=
  (Shader.generate document searchPaths (Conversion.shaderNameFor node) (NodePath.leaf node)
    (NodePath.parent node)).toOption.map (Conversion.shaderNameFor node, ·)

/-- A shader is generated for exactly the nodes that the compiler is called for. -/
theorem Document.isSome_request? (document : Document) (searchPaths : List String) (node : String) :
    (document.request? searchPaths node).isSome = document.generates searchPaths node := by
  -- A request is made exactly where source can be generated.
  simp only [request?, generates, Option.isSome_map]

/-- There are as many requests for some nodes as there are nodes that a shader is generated for. -/
theorem Document.length_requests (document : Document) (searchPaths nodes : List String) :
    (nodes.filterMap (document.request? searchPaths)).length =
      (nodes.filter (document.generates searchPaths)).length := by
  -- A request is made exactly for the nodes that are generated.
  rw [List.length_filterMap_eq_countP, ← List.countP_eq_length_filter]
  simp only [isSome_request?]

namespace Conversion

variable {σ τ : Type}

/-! ### Recorded runs -/

/-- The conversion with the compiler's state seen in another way. -/
def mapCompiler (view : τ → σ) (conversion : Conversion τ) : Conversion σ where
  network := conversion.network
  registry := conversion.registry
  compiler := view conversion.compiler
  keep := conversion.keep
  candidates := conversion.candidates
  visited := conversion.visited
  summary := conversion.summary
  warnings := conversion.warnings

section view

variable {compile : Compiler σ} {recording : Compiler τ} {view : τ → σ} {document : Document}
  {searchPaths : List String} {conversion : Conversion τ}

/-- A view of the compiler's state leaves the network. -/
@[simp] theorem network_mapCompiler : (conversion.mapCompiler view).network = conversion.network := rfl

/-- A view of the compiler's state leaves the registry. -/
@[simp] theorem registry_mapCompiler : (conversion.mapCompiler view).registry = conversion.registry := rfl

/-- A view of the compiler's state leaves the nodes met. -/
@[simp] theorem keep_mapCompiler : (conversion.mapCompiler view).keep = conversion.keep := rfl

/-- A view of the compiler's state leaves the summary. -/
@[simp] theorem summary_mapCompiler : (conversion.mapCompiler view).summary = conversion.summary := rfl

/-- Meeting a node has nothing to do with the compiler's state. -/
@[simp] theorem meet_mapCompiler (node : String) :
    (conversion.mapCompiler view).meet node = (conversion.meet node).mapCompiler view := rfl

/-- The compiler's state becomes what is seen of it. -/
@[simp] theorem compiler_mapCompiler : (conversion.mapCompiler view).compiler = view conversion.compiler := rfl

/-- Installing a shader leaves the compiler's state alone. -/
theorem install_mapCompiler (conversion : Conversion τ) (terminal input : String) (connection : Connection)
    (compilation : Compilation) :
    (conversion.mapCompiler view).install terminal input connection compilation =
      (conversion.install terminal input connection compilation).mapCompiler view := by
  unfold install
  dsimp only
  split
  · rfl
  -- Whether the shader can be registered is a question to the registry alone.
  · simp only [warn, registry_mapCompiler]
    split
    · rfl
    · rfl

/-- Binding one more input to a node that was met leaves the compiler's state alone. -/
theorem revisit_mapCompiler (conversion : Conversion τ) (terminal input : String) (connection : Connection) :
    (conversion.mapCompiler view).revisit terminal input connection =
      (conversion.revisit terminal input connection).mapCompiler view := by
  -- A visit that compiles nothing does not look at the compiler's state.
  unfold revisit
  rw [summary_mapCompiler, network_mapCompiler, registry_mapCompiler]
  split
  · cases (conversion.network.type? connection.source).bind conversion.registry.find? with
    | none => rfl
    | some entry => rfl
  · rfl

/-- Seen in a way in which two compilers answer alike, the next step with one is that with the other. -/
theorem step_mapCompiler (alike : ∀ name source state, compile name source (view state) =
      ((recording name source state).1, view (recording name source state).2))
    (terminal : String) (conversion : Conversion τ) (input : String) :
    step compile document searchPaths terminal (conversion.mapCompiler view) input =
      (step recording document searchPaths terminal conversion input).mapCompiler view := by
  unfold step
  rw [network_mapCompiler, keep_mapCompiler]
  split
  · rfl
  · rename_i connection _
    split
    · split
      -- A node that was met before is bound at most.
      · exact revisit_mapCompiler conversion terminal input connection
      · unfold compileNode
        dsimp only
        split
        · rfl
        -- Both compilers give the same answer, and leave states that are seen alike.
        · rename_i source _
          simp only [meet_mapCompiler, compiler_mapCompiler, alike]
          exact install_mapCompiler { conversion.meet connection.source with
            compiler := (recording (shaderNameFor connection.source) source conversion.compiler).2
            summary := { (conversion.meet connection.source).summary with
              generated := conversion.summary.generated + 1 } } terminal input connection _
    · rfl

/-- A whole run with one compiler is that with the other. -/
theorem run_mapCompiler (alike : ∀ name source state, compile name source (view state) =
      ((recording name source state).1, view (recording name source state).2))
    (terminal : String) (conversion : Conversion τ) (inputs : List String) :
    run compile document searchPaths terminal (conversion.mapCompiler view) inputs =
      (run recording document searchPaths terminal conversion inputs).mapCompiler view := by
  -- The two runs take corresponding steps.
  unfold run
  induction inputs generalizing conversion with
  | nil => rfl
  | cons input rest ih => rw [List.foldl_cons, List.foldl_cons, step_mapCompiler alike, ih]

end view

section recording

variable (compile : Compiler σ) (document : Document) (searchPaths : List String)

/-- Compiling a node with a recording compiler does what compiling it does, and adds the request for it. -/
theorem compiledShader_recording (node : String) (compiler : σ) (requests : List (String × String)) :
    compiledShader compile.recording document searchPaths node (compiler, requests) =
      ((compiledShader compile document searchPaths node compiler).1,
        (compiledShader compile document searchPaths node compiler).2,
        requests ++ (document.request? searchPaths node).toList) := by
  unfold compiledShader Document.request?
  cases Shader.generate document searchPaths (shaderNameFor node) (NodePath.leaf node)
      (NodePath.parent node) with
  -- Without a source there is no request.
  | error warning => simp [Except.toOption]
  | ok source => simp [Except.toOption, Compiler.recording]

/-- After some nodes, a recording compiler has recorded the requests for these in their order. -/
theorem compilerAfter_recording (nodes : List String) (compiler : σ) (requests : List (String × String)) :
    compilerAfter compile.recording document searchPaths nodes (compiler, requests) =
      (compilerAfter compile document searchPaths nodes compiler,
        requests ++ nodes.filterMap (document.request? searchPaths)) := by
  -- The request for the head comes behind those there are, and before those for the rest.
  induction nodes generalizing compiler requests with
  | nil => simp [compilerAfter]
  | cons node rest ih =>
    rw [compilerAfter, compiledShader_recording, ih, compilerAfter, List.filterMap_cons]
    cases document.request? searchPaths node with
    | none => simp
    | some request => simp

/-- A run with a recording compiler does what one with the compiler does. -/
theorem run_recording (terminal : String) (conversion : Conversion (σ × List (String × String)))
    (inputs : List String) :
    run compile document searchPaths terminal (conversion.mapCompiler Prod.fst) inputs =
      (run compile.recording document searchPaths terminal conversion inputs).mapCompiler Prod.fst :=
  -- The recording compiler answers as the one it records.
  run_mapCompiler (fun _ _ _ => rfl) terminal conversion inputs

end recording

end Conversion

/-! ### The nodes that are met -/

namespace Network

/-- The fresh ones of some names are those that exist and were not visited, each where it stands first. -/
theorem fresh_eq_eraseDups (network : Network) (visited names : List String) :
    network.fresh visited names =
      (names.filter fun name => network.hasNode name && decide (name ∉ visited)).eraseDups := by
  -- The induction goes by the names, with whatever was visited before.
  induction names generalizing visited with
  | nil => rfl
  | cons name rest ih =>
    by_cases new : network.hasNode name = true ∧ name ∉ visited
    · rw [fresh_cons_of_new new.1 new.2, List.filter_cons_of_pos (by simpa using new), List.eraseDups_cons, ih,
        List.filter_filter]
      -- A name that was taken counts as visited, and all its later occurrences are erased.
      congr 2
      refine List.filter_congr fun other _ => ?_
      simp only [List.mem_append, List.mem_singleton]
      by_cases same : other = name
      · simp [same]
      · simp [same]
    · rw [fresh_cons_of_not fun there => Classical.byContradiction fun unseen => new ⟨there, unseen⟩, ih,
        List.filter_cons_of_neg (by simpa using new)]

/-- The fresh ones of a list are the first name, if it is fresh, and those of the rest once that was visited. -/
theorem fresh_cons (network : Network) (visited : List String) (name : String) (rest : List String) :
    network.fresh visited (name :: rest) =
      network.fresh visited [name] ++ network.fresh (visited ++ network.fresh visited [name]) rest := by
  -- The name is new or it is not, and the rest is looked at with the name visited or as before.
  by_cases new : network.hasNode name = true ∧ name ∉ visited
  · rw [fresh_cons_of_new new.1 new.2, fresh_cons_of_new new.1 new.2]
    rfl
  · have old : network.hasNode name = true → name ∈ visited :=
      fun there => Classical.byContradiction fun unseen => new ⟨there, unseen⟩
    rw [fresh_cons_of_not old, fresh_cons_of_not old, fresh, List.nil_append, List.append_nil]

/-- The sources of all inputs of a node are those that its input names lead to. -/
theorem filterMap_inputNames (network : Network) (node : String) :
    (network.inputNames node).filterMap (fun input => (network.input? node input).map (·.source)) =
      (network.inputs node).map (·.2.source) := by
  unfold inputNames
  rw [List.filterMap_map, ← List.filterMap_eq_map]
  -- Each listed name leads back to the connection that it is listed with.
  refine List.filterMap_congr fun entry listed => ?_
  simp only [Function.comp_apply, mem_inputs_iff.1 listed, Option.map_some]

end Network

namespace Conversion

section met

variable {σ : Type} {compile : Compiler σ} {document : Document} {searchPaths : List String} {registry : Registry}
  {compiler : σ} {origin : Network} {terminal input : String} {connection : Connection}
  {conversion next : Conversion σ}

/-- Doing a connected input meets its source if that exists and was not met before, and no other node. -/
theorem Transition.firstLevel_eq
    (records : KeepsRecords compile document searchPaths registry compiler origin terminal conversion)
    (connected : conversion.network.input? terminal input = some connection)
    (moves : Transition compile document searchPaths terminal conversion input next) :
    next.summary.firstLevel =
      conversion.summary.firstLevel ++ origin.fresh conversion.summary.firstLevel [connection.source] := by
  have present := records.within.derives.present
  -- A source that is missing or was met is not fresh, so that the nodes met stay the same.
  have idle : (origin.hasNode connection.source = true → connection.source ∈ conversion.summary.firstLevel) →
      conversion.summary.firstLevel =
        conversion.summary.firstLevel ++ origin.fresh conversion.summary.firstLevel [connection.source] := by
    intro old
    rw [Network.fresh_cons_of_not old, Network.fresh, List.append_nil]
  have grown : conversion.network.hasNode connection.source = true → connection.source ∉ Dict.keys conversion.keep →
      conversion.summary.firstLevel ++ [connection.source] =
        conversion.summary.firstLevel ++ origin.fresh conversion.summary.firstLevel [connection.source] := by
    intro there new
    rw [Network.fresh_cons_of_new ((present _).symm.trans there) fun old => new ((records.met _).1 old), Network.fresh]
  -- Each way of visiting an input has met its source before or meets it now.
  cases moves with
  | unconnected absent => simp [absent] at connected
  | dangling connected' missing =>
    cases connected.symm.trans connected'
    exact idle fun there => by simp [← present, missing] at there
  | unconverted connected' there met plain =>
    cases connected.symm.trans connected'
    exact idle fun _ => (records.met _).2 met
  | rebound connected' there met shader =>
    cases connected.symm.trans connected'
    exact idle fun _ => (records.met _).2 met
  | failed connected' there new nothing =>
    cases connected.symm.trans connected'
    exact grown there new
  | converted connected' there new shader =>
    cases connected.symm.trans connected'
    exact grown there new

/-- A run over inputs of a clear terminal that does not read itself meets the fresh ones of their sources, in the
order of the inputs. -/
theorem firstLevel_run (clear : origin.Clear terminal)
    (unread : ∀ input connection, origin.input? terminal input = some connection →
      connection.source ≠ terminal)
    (inputs : List String) (distinct : inputs.Nodup)
    (connected : ∀ input ∈ inputs, ∃ connection, origin.input? terminal input = some connection)
    (accounts : Accounts compile document searchPaths registry compiler origin terminal conversion)
    (upTo : PlacedUpTo origin terminal inputs conversion) :
    (run compile document searchPaths terminal conversion inputs).summary.firstLevel =
      conversion.summary.firstLevel ++ origin.fresh conversion.summary.firstLevel
        (inputs.filterMap fun input => (origin.input? terminal input).map (·.source)) := by
  -- What was met is visited for the inputs ahead, so each source is fresh at most once.
  induction inputs generalizing conversion with
  | nil => exact (List.append_nil _).symm
  | cons input rest ih =>
    rw [List.nodup_cons] at distinct
    obtain ⟨connection, original⟩ := connected input List.mem_cons_self
    have others := fun other inside => connected other (List.mem_cons_of_mem input inside)
    -- The inputs ahead still read what they read on entry.
    have reads := (upTo.pending input List.mem_cons_self).1.trans original
    have moves := step_transition compile document searchPaths terminal conversion input
    have grows := moves.firstLevel_eq accounts.toKeepsRecords reads
    have later := ih distinct.2 others (accounts.transition unread moves)
      (upTo.transition clear unread accounts original distinct.1 others moves)
    rw [grows] at later
    rw [List.filterMap_cons, original, Option.map_some, Network.fresh_cons, ← List.append_assoc]
    exact later

end met

end Conversion

/-- What converting the inputs of a terminal asks of the compiler, where the terminal does not read itself and none
of its inputs has a name that the adapters reserve. The nodes met are the existing sources of the inputs, each where
it is first read. A compiler that records its requests is called once for each of them that has a source, in their
order and for nothing else, and makes no difference otherwise. The nodes converted are some of those met, in their
order, and there are at most as many of them as shaders compiled, at most as many of these as were generated, which
are as many as the requests, and at most as many of those as nodes met. -/
theorem Network.convertInputs_requests {σ : Type} (compile : Compiler σ) (document : Document)
    (searchPaths : List String) (registry : Registry) (compiler : σ) (network : Network) (terminal : String)
    (unread : ∀ input connection, network.input? terminal input = some connection →
      connection.source ≠ terminal)
    (clear : network.Clear terminal) :
    let after := network.convertInputs compile document searchPaths registry compiler terminal
    let recorded := network.convertInputs compile.recording document searchPaths registry (compiler, []) terminal
    let requests := after.summary.firstLevel.filterMap (document.request? searchPaths)
    after.summary.firstLevel = (network.sources terminal).eraseDups ∧
    (recorded.mapCompiler Prod.fst = after ∧ recorded.compiler.2 = requests) ∧
    after.summary.converted.Sublist after.summary.firstLevel ∧
    after.summary.generated = requests.length ∧
    after.summary.converted.length ≤ after.summary.compiled ∧
    after.summary.compiled ≤ after.summary.generated ∧
    after.summary.generated ≤ after.summary.firstLevel.length := by
  intro after recorded requests
  -- Pruning leaves the compiler and, but for the nodes pruned, the summary: what counts is the run.
  have starts := Conversion.accounts_start compile document searchPaths registry compiler network terminal
  have records := starts.run unread (network.inputNames terminal)
  have met := Conversion.firstLevel_run clear unread _ (network.inputNames_nodup terminal)
    (fun _ inside => mem_inputNames_iff.1 inside) starts (Conversion.placedUpTo_start registry compiler clear)
  rw [filterMap_inputNames, fresh_eq_eraseDups] at met
  have runs : Conversion.run compile document searchPaths terminal { network, registry, compiler }
      (network.inputNames terminal) =
        (Conversion.run compile.recording document searchPaths terminal
          { network, registry, compiler := (compiler, []) } (network.inputNames terminal)).mapCompiler Prod.fst :=
    Conversion.run_recording compile document searchPaths terminal { network, registry, compiler := (compiler, []) } _
  have same : recorded.mapCompiler Prod.fst = after :=
    congrArg (fun conversion => conversion.finish terminal) runs.symm
  -- The books of the recorded run tell its compiler's last state, with the requests for all nodes met.
  have asked : recorded.compiler.2 = requests := by
    have state := ((Conversion.keepsRecords_start compile.recording document searchPaths registry (compiler, [])
      network terminal).run (network.inputNames terminal)).state
    rw [Conversion.compilerAfter_recording, List.nil_append] at state
    have nodes : recorded.summary.firstLevel = after.summary.firstLevel := congrArg (·.summary.firstLevel) same
    exact (congrArg Prod.snd state).trans (congrArg (List.filterMap (document.request? searchPaths)) nodes)
  have counts : Conversion.CountsShaders document searchPaths after :=
    (Conversion.countsShaders_start network registry compiler).run (network.inputNames terminal)
  have tallied : Conversion.Tallied (Conversion.run compile document searchPaths terminal
      { network, registry, compiler } (network.inputNames terminal)) :=
    (Conversion.tallied_start registry compiler network).run _
  have generated : after.summary.generated = requests.length :=
    counts.trans (document.length_requests searchPaths _).symm
  refine ⟨?_, ⟨same, asked⟩, ?_, generated, tallied.converted, tallied.compiled, ?_⟩
  · refine met.trans ?_
    simp only [List.not_mem_nil, not_false_eq_true, decide_true, Bool.and_true, List.nil_append]
    rfl
  · have converted : after.summary.converted = Conversion.successes (Conversion.outcomes compile document searchPaths
        after.summary.firstLevel compiler) := records.converted
    rw [converted]
    exact Conversion.successes_sublist ..
  · rw [generated]
    exact List.length_filterMap_le ..

namespace Conversion.Shared

/-- A surface that reads one node at two inputs, and between these a node that no document holds. -/
def network : Network where
  materialPath := "/M"
  nodes := Dict.ofList [
    ("/M/a", ⟨"add", Dict.empty, Dict.empty⟩),
    ("/M/c", ⟨"add", Dict.empty, Dict.empty⟩),
    ("/M/t", ⟨"surface", Dict.empty,
      Dict.ofList [("base", ⟨"/M/a", "out"⟩), ("coat", ⟨"/M/c", "out"⟩), ("sheen", ⟨"/M/a", "out"⟩)]⟩)]
  terminals := Dict.empty

/-- Of the two nodes, the first alone has a source. -/
theorem requests :
    ∃ source, ["/M/a", "/M/c"].filterMap (Emissive.document.request? []) = [("aShader", source)] := by
  -- The first source is generated as known, and for the other nothing is generated.
  obtain ⟨source, generated⟩ := Emissive.generate_ok
  have name : shaderNameFor "/M/a" = "aShader" := by decide
  have found : Emissive.document.request? [] "/M/a" = some ("aShader", source) := by
    rw [Document.request?, generated, name]
    rfl
  have missing : Emissive.document.request? [] "/M/c" = none := by cbv
  exact ⟨source, by simp only [List.filterMap_cons, List.filterMap_nil, found, missing]⟩

/-- The two nodes are met, and the compiler is called once. -/
theorem asks_once :
    (∀ input connection, network.input? "/M/t" input = some connection → connection.source ≠ "/M/t") ∧
    network.Clear "/M/t" ∧ network.sources "/M/t" = ["/M/a", "/M/c", "/M/a"] ∧
    let after := network.convertInputs Emissive.compile Emissive.document [] Registry.empty () "/M/t"
    let recorded :=
      network.convertInputs Emissive.compile.recording Emissive.document [] Registry.empty ((), []) "/M/t"
    after.summary.firstLevel = ["/M/a", "/M/c"] ∧ (∃ source, recorded.compiler.2 = [("aShader", source)]) ∧
    after.summary.generated = 1 := by
  have unread : ∀ input connection, network.input? "/M/t" input = some connection →
      connection.source ≠ "/M/t" := Network.source_ne_of_inputs (by decide)
  have clear : network.Clear "/M/t" := by decide
  refine ⟨unread, clear, by decide, ?_⟩
  intro after recorded
  -- The list of sources names one node twice, and the general statement says that it is met once.
  obtain ⟨firstLevel, ⟨_, asked⟩, _, generated, _⟩ := Network.convertInputs_requests Emissive.compile
    Emissive.document [] Registry.empty () network "/M/t" unread clear
  have met : after.summary.firstLevel = ["/M/a", "/M/c"] := firstLevel.trans (by decide)
  -- The compiler is asked for the one source that can be generated.
  obtain ⟨source, only⟩ := requests
  rw [met, only] at asked
  rw [met, only] at generated
  exact ⟨met, ⟨source, asked⟩, generated⟩

end Conversion.Shared

end ShadeBake

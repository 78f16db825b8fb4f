import ShadeBake.Document.Description
import ShadeBake.Proofs.Conversion.Outcome

/-! Which outputs the readers of a converted node name. The terminal is bound to outputs that the node's
shader has, and every other reader names the output that it named on entry. -/

namespace ShadeBake

namespace Conversion

variable {σ : Type} {compile : Compiler σ} {document : Document} {searchPaths : List String}
  {registry : Registry} {compiler : σ} {origin : Network} {terminal input : String} {ahead : List String}
  {conversion next : Conversion σ}

/-- A slot that reads something once an input is bound to a shader reads an output of that, or it is another
one and reads what it read. -/
theorem hasOutput_of_boundSlot {entry : ShaderEntry} {slot : String} {connection read : Connection}
    {before : Option Connection} (reads : boundSlot (some entry) input connection slot before = some read) :
    (read = connection ∧ entry.hasOutput connection.output = true) ∨ (slot ≠ input ∧ before = some read) := by
  -- The slot is the one that is bound, the one that is freed, or untouched.
  unfold boundSlot at reads
  simp only at reads
  split at reads
  · rename_i bound
    exact .inl ⟨(Option.some.inj reads).symm, bound.2⟩
  · split at reads
    · simp at reads
    · rename_i apart
      exact .inr ⟨apart, reads⟩

/-- After a transition, a slot of the terminal reads what it read and is not the one that was done, or its
source is missing or met, and if that was converted the slot reads an output of the shader that was found for it
or made of it. -/
theorem Transition.slot_reads
    (records : KeepsRecords compile document searchPaths registry compiler origin terminal conversion)
    (moves : Transition compile document searchPaths terminal conversion input next)
    {slot : String} {read : Connection} (reads : next.network.input? terminal slot = some read) :
    (slot ≠ input ∧ conversion.network.input? terminal slot = some read) ∨
    ((conversion.network.hasNode read.source = true → read.source ∈ Dict.keys next.keep) ∧
      (read.source ∈ next.summary.converted → ∃ entry, entry.hasOutput read.output = true ∧
        (conversion.shader? read.source = some entry ∨ (read.source, some entry) ∈
          outcomes compile document searchPaths next.summary.firstLevel compiler))) := by
  have kept := fun {node} (converted : node ∈ conversion.summary.converted) =>
    (records.met node).1 (records.met_of_converted converted)
  cases moves with
  | unconnected absent =>
    refine .inl ⟨fun same => ?_, reads⟩
    simp [same ▸ reads] at absent
  -- Without a binding, the slot that was done reads a node that was not converted.
  | dangling connected missing =>
    by_cases same : slot = input
    · subst same
      cases connected.symm.trans reads
      refine .inr ⟨fun present => by simp [missing] at present, fun converted => ?_⟩
      have present := records.within.present_of_met (kept converted)
      rw [← records.within.derives.present, missing] at present
      simp at present
    · exact .inl ⟨same, reads⟩
  | unconverted connected present met plain =>
    by_cases same : slot = input
    · subst same
      cases connected.symm.trans reads
      exact .inr ⟨fun _ => met, fun converted => absurd plain (records.shader?_ne_none converted)⟩
    · exact .inl ⟨same, reads⟩
  | @failed connection generated compiled warnings connected present new nothing =>
    by_cases same : slot = input
    · subst same
      cases connected.symm.trans reads
      exact .inr ⟨fun _ => NameSet.mem_keys_add.2 (.inl rfl), fun converted => absurd (kept converted) new⟩
    · exact .inl ⟨same, reads⟩
  | @rebound connection entry connected present met shader =>
    rw [input?_bind _ _ _ _ _ (Network.mem_nodeNames_of_input? connected)] at reads
    rcases hasOutput_of_boundSlot reads with ⟨rfl, output⟩ | old
    · exact .inr ⟨fun _ => met, fun _ => ⟨entry, output, .inl shader⟩⟩
    · exact .inl old
  | @converted connection entry generated compiled warnings connected present new shader =>
    by_cases self : connection.source = terminal
    · simp [input?_convert_self _ input entry _ self] at reads
    · have bound := input?_convert ((conversion.meet connection.source).advance
        (compiledShader compile document searchPaths connection.source conversion.compiler).2
        generated compiled warnings) input entry (conversion.registry.insert entry) self
        (Network.mem_nodeNames_of_input? connected) slot
      rw [bound] at reads
      rcases hasOutput_of_boundSlot reads with ⟨rfl, output⟩ | old
      · refine .inr ⟨fun _ => NameSet.mem_keys_add.2 (.inl rfl), fun _ => ⟨entry, output, .inr ?_⟩⟩
        -- The outcome of the node that was just met comes last.
        have last := outcomes_append compile document searchPaths compiler conversion.summary.firstLevel
          read.source
        rw [← records.state, shader] at last
        exact last ▸ List.mem_append_right _ (List.mem_singleton_self _)
      · exact .inl old

/-- A terminal is exposed to some connections up to the inputs ahead when each other slot reads a node that is
missing or was met, and reads it by one of these connections if it was converted. -/
structure ExposedTo (known : Connection → Prop) (terminal : String) (ahead : List String)
    (conversion : Conversion σ) : Prop where
  met : ∀ slot connection, slot ∉ ahead → conversion.network.input? terminal slot = some connection →
    conversion.network.hasNode connection.source = true → connection.source ∈ Dict.keys conversion.keep
  outputs : ∀ slot connection, slot ∉ ahead →
    conversion.network.input? terminal slot = some connection →
    connection.source ∈ conversion.summary.converted → known connection

/-- At the start all inputs are ahead, and no other slot reads anything. -/
theorem exposedTo_start (known : Connection → Prop) (registry : Registry) (compiler : σ) (network : Network)
    (terminal : String) :
    ExposedTo known terminal (network.inputNames terminal) ({ network, registry, compiler } : Conversion σ) where
  met _ connection done reads _ := absurd (Network.mem_inputNames_iff.2 ⟨connection, reads⟩) done
  outputs _ connection done reads _ := absurd (Network.mem_inputNames_iff.2 ⟨connection, reads⟩) done

/-- Doing the next input exposes it to the connections that there were and to those by outputs of the shader that
was found for its source or made of it. -/
theorem ExposedTo.transition {known known' : Connection → Prop}
    (exposed : ExposedTo known terminal (input :: ahead) conversion)
    (records : KeepsRecords compile document searchPaths registry compiler origin terminal conversion)
    (moves : Transition compile document searchPaths terminal conversion input next)
    (old : ∀ connection, known connection → known' connection)
    (new : ∀ connection entry, entry.hasOutput connection.output = true →
      (conversion.shader? connection.source = some entry ∨ (connection.source, some entry) ∈
        outcomes compile document searchPaths next.summary.firstLevel compiler) → known' connection) :
    ExposedTo known' terminal ahead next := by
  have records' := records.transition moves
  -- No step creates or deletes a node.
  have same : ∀ node, next.network.hasNode node = conversion.network.hasNode node := fun node =>
    (records'.within.derives.present node).trans (records.within.derives.present node).symm
  refine ⟨fun slot connection done reads present => ?_, fun slot connection done reads converted => ?_⟩
  · rcases moves.slot_reads records reads with ⟨apart, read⟩ | ⟨met, _⟩
    · exact moves.keeps _ (exposed.met slot connection (by simp [apart, done]) read (same _ ▸ present))
    · exact met (same _ ▸ present)
  · rcases moves.slot_reads records reads with ⟨apart, read⟩ | ⟨_, outputs⟩
    -- The source of a slot done before was met, and so it was not converted just now.
    · have before : slot ∉ input :: ahead := by simp [apart, done]
      have present := records'.within.present_of_met
        ((records'.met _).1 (records'.met_of_converted converted))
      have met := exposed.met slot connection before read ((records.within.derives.present _).trans present)
      exact old _ (exposed.outputs slot connection before read
        (((moves.converts _).2 converted).resolve_right fun unmet => unmet met))
    · obtain ⟨entry, output, origin⟩ := outputs converted
      exact new connection entry output origin

/-- A terminal is exposed up to the inputs ahead when each other slot reads a node that is missing or was met,
and reads an output of its shader if that was converted. -/
structure Exposed (compile : Compiler σ) (document : Document) (searchPaths : List String) (compiler : σ)
    (terminal : String) (ahead : List String) (conversion : Conversion σ) : Prop where
  met : ∀ slot connection, slot ∉ ahead → conversion.network.input? terminal slot = some connection →
    conversion.network.hasNode connection.source = true → connection.source ∈ Dict.keys conversion.keep
  outputs : ∀ slot connection, slot ∉ ahead →
    conversion.network.input? terminal slot = some connection →
    connection.source ∈ conversion.summary.converted →
      ∃ entry, (connection.source, some entry) ∈
        outcomes compile document searchPaths conversion.summary.firstLevel compiler ∧
        entry.hasOutput connection.output = true

/-- At the start all inputs are ahead, and no other slot reads anything. -/
theorem exposed_start (compile : Compiler σ) (document : Document) (searchPaths : List String)
    (registry : Registry) (compiler : σ) (network : Network) (terminal : String) :
    Exposed compile document searchPaths compiler terminal (network.inputNames terminal)
      ({ network, registry, compiler } : Conversion σ) where
  met := (exposedTo_start (fun _ => True) registry compiler network terminal).met
  outputs _ connection done reads _ := absurd (Network.mem_inputNames_iff.2 ⟨connection, reads⟩) done

namespace Exposed

/-- Doing the next input exposes it. -/
theorem transition
    (exposed : Exposed compile document searchPaths compiler terminal (input :: ahead) conversion)
    (records : KeepsRecords compile document searchPaths registry compiler origin terminal conversion)
    (admits : registry.Admits
      (entries (outcomes compile document searchPaths conversion.summary.firstLevel compiler)))
    (moves : Transition compile document searchPaths terminal conversion input next) :
    Exposed compile document searchPaths compiler terminal ahead next := by
  -- The connections are those by outputs of the shaders that there are outcomes for.
  have exposed' : ExposedTo (fun connection => ∃ entry, (connection.source, some entry) ∈
      outcomes compile document searchPaths next.summary.firstLevel compiler ∧
        entry.hasOutput connection.output = true) terminal ahead next := by
    refine ExposedTo.transition ⟨exposed.met, exposed.outputs⟩ records moves ?_ ?_
    · rintro connection ⟨entry, listed, output⟩
      exact ⟨entry, (outcomes_isPrefix moves.firstLevel).subset listed, output⟩
    · rintro connection entry output (shader | made)
      -- The shader that is looked up is the one that the node was compiled to.
      · have converted := mem_converted_of_shader? (by simp [shader] : conversion.shader? connection.source ≠ none)
        rw [records.converted] at converted
        obtain ⟨found, done⟩ := mem_successes_iff.1 converted
        cases (records.shader?_of_mem_outcomes admits done).symm.trans shader
        exact ⟨entry, (outcomes_isPrefix moves.firstLevel).subset done, output⟩
      · exact ⟨entry, made, output⟩
  exact ⟨exposed'.met, exposed'.outputs⟩

/-- A run over all inputs exposes a terminal, where the registry admits the shaders that are compiled. -/
theorem run (inputs : List String)
    (records : KeepsRecords compile document searchPaths registry compiler origin terminal conversion)
    (exposed : Exposed compile document searchPaths compiler terminal inputs conversion)
    (admits : registry.Admits (entries (outcomes compile document searchPaths
      (Conversion.run compile document searchPaths terminal conversion inputs).summary.firstLevel
      compiler))) :
    Exposed compile document searchPaths compiler terminal []
      (Conversion.run compile document searchPaths terminal conversion inputs) := by
  induction inputs generalizing conversion with
  | nil => exact exposed
  | cons input rest ih =>
    have moves := step_transition compile document searchPaths terminal conversion input
    -- What the registry admits in the end it admits on the way, as outcomes are only added.
    have front := moves.firstLevel.trans (firstLevel_isPrefix_run compile document searchPaths terminal
      (step compile document searchPaths terminal conversion input) rest)
    have before := admits.sublist ((outcomes_isPrefix front).sublist.filterMap _)
    exact ih (records.transition moves) (exposed.transition records before moves) admits

end Exposed

end Conversion

/-- Which outputs of converted nodes are read once the inputs of a terminal are converted, where the registry
admits the compiled shaders. Each converted node is registered with the entry that it was compiled to, and
the terminal reads outputs of these entries only. Every other node that is neither pruned nor converted reads
what it read on entry, so that all readers name outputs of the entries, as far as these outputs were declared
on entry, exactly if those nodes did. -/
theorem Network.convertInputs_outputs {σ : Type} (compile : Compiler σ) (document : Document)
    (searchPaths : List String) (registry : Registry) (library : DefinitionLibrary) (compiler : σ)
    (network : Network) (terminal : String)
    (admits : registry.Admits (Conversion.entries (Conversion.outcomes compile document searchPaths
      (network.convertInputs compile document searchPaths registry compiler
        terminal).summary.firstLevel compiler))) :
    let after := network.convertInputs compile document searchPaths registry compiler terminal
    let registered := fun node => (after.network.type? node).bind after.registry.find?
    let declared := fun node output => output ∈
      (NodeDescription.of registry library (network.typeOf node)).outputs.map (·.name)
    (∀ node ∈ after.summary.converted, ∃ entry, registered node = some entry ∧ (node, some entry) ∈
      Conversion.outcomes compile document searchPaths after.summary.firstLevel compiler) ∧
    (∀ slot connection, after.network.input? terminal slot = some connection →
      connection.source ∈ after.summary.converted →
        ∃ entry, registered connection.source = some entry ∧ entry.hasOutput connection.output = true) ∧
    (∀ node slot connection, node ≠ terminal →
      (after.network.input? node slot = some connection ↔
        node ∉ after.summary.pruned ∧ node ∉ after.summary.converted ∧
          network.input? node slot = some connection)) ∧
    ((∀ node slot connection, after.network.input? node slot = some connection →
        connection.source ∈ after.summary.converted → declared connection.source connection.output →
          ∃ entry, registered connection.source = some entry ∧
            entry.hasOutput connection.output = true) ↔
      ∀ node slot connection, node ≠ terminal → node ∉ after.summary.pruned →
        node ∉ after.summary.converted → network.input? node slot = some connection →
        connection.source ∈ after.summary.converted → declared connection.source connection.output →
          ∃ entry, registered connection.source = some entry ∧
            entry.hasOutput connection.output = true) := by
  intro after registered declared
  have starts := Conversion.keepsRecords_start compile document searchPaths registry compiler network terminal
  have records := starts.run (network.inputNames terminal)
  have exposed := Conversion.Exposed.run (network.inputNames terminal) starts
    (Conversion.exposed_start compile document searchPaths registry compiler network terminal) admits
  generalize made : Conversion.run compile document searchPaths terminal
    { network, registry, compiler } (network.inputNames terminal) = conversion at records exposed
  -- Pruning comes after the run, and leaves the nodes met and the registry.
  have final : after = conversion.finish terminal := made ▸ rfl
  have admitted : registry.Admits (Conversion.entries (Conversion.outcomes compile document searchPaths
      conversion.summary.firstLevel compiler)) := made ▸ admits
  clear_value after
  subst final
  have found : ∀ node entry, (node, some entry) ∈ Conversion.outcomes compile document searchPaths
      conversion.summary.firstLevel compiler → registered node = some entry := by
    intro node entry done
    have same : (conversion.finish terminal).network.type? node = conversion.network.type? node := by
      unfold type?
      rw [records.get?_met (Conversion.mem_of_mem_outcomes done)]
    have shader := Conversion.find?_of_shader? (records.shader?_of_mem_outcomes admitted done)
    exact (congrArg (fun type => Option.bind type conversion.registry.find?) same).trans shader
  have terminals : ∀ slot connection,
      (conversion.finish terminal).network.input? terminal slot = some connection →
      connection.source ∈ conversion.summary.converted →
        ∃ entry, registered connection.source = some entry ∧ entry.hasOutput connection.output = true := by
    intro slot connection reads converted
    rw [conversion.input?_finish] at reads
    obtain ⟨entry, done, output⟩ := exposed.outputs slot connection List.not_mem_nil reads converted
    exact ⟨entry, found _ _ done, output⟩
  have others : ∀ node slot connection, node ≠ terminal →
      ((conversion.finish terminal).network.input? node slot = some connection ↔
        node ∉ (conversion.finish terminal).summary.pruned ∧ node ∉ conversion.summary.converted ∧
          network.input? node slot = some connection) := by
    intro node slot connection apart
    have left : (conversion.finish terminal).network.input? node slot =
        if node ∈ (conversion.finish terminal).summary.pruned then none
        else conversion.network.input? node slot := input?_deleteNodes ..
    rw [left]
    by_cases pruned : node ∈ (conversion.finish terminal).summary.pruned
    · simp [pruned]
    · by_cases converted : node ∈ conversion.summary.converted
      · simp [pruned, converted, records.input?_of_converted converted]
      · simp [pruned, converted, records.input?_of_unconverted apart converted]
  refine ⟨fun node converted => ?_, terminals, others, fun all node slot connection apart stays plain read =>
    all node slot connection ((others node slot connection apart).2 ⟨stays, plain, read⟩),
    fun all node slot connection reads converted output => ?_⟩
  · have success := converted
    have listed : (conversion.finish terminal).summary.converted = _ := records.converted
    rw [listed] at success
    obtain ⟨entry, done⟩ := Conversion.mem_successes_iff.1 success
    exact ⟨entry, found node entry done, done⟩
  -- The terminal's connections name outputs of the entries in any case.
  · by_cases self : node = terminal
    · subst self
      exact terminals slot connection reads converted
    · obtain ⟨stays, plain, read⟩ := (others node slot connection self).1 reads
      exact all node slot connection self stays plain read converted output

namespace Conversion.Readers

/-- A surface that reads one output of a node, and a node beside it that reads another one. -/
def network : Network where
  materialPath := "/M"
  nodes := Dict.ofList [
    ("/M/a", ⟨"split", Dict.empty, Dict.empty⟩),
    ("/M/b", ⟨"add", Dict.empty, Dict.ofList [("in1", ⟨"/M/a", "mask"⟩)]⟩),
    ("/M/t", ⟨"surface", Dict.empty, Dict.ofList [("base", ⟨"/M/a", "out"⟩)]⟩)]
  terminals := Dict.empty

/-- The definition of the node, which declares both outputs. -/
def library : DefinitionLibrary where
  searchPaths := []
  definitions := Dict.ofList [("split",
    ⟨"split", "split", "multioutput", [], [("out", "float"), ("mask", "float")], Dict.empty⟩)]

/-- The conversion at its start. -/
def start : Conversion Unit := { network, registry := Registry.empty, compiler := () }

/-- The one input has its source compiled. -/
theorem step_base :
    step Emissive.compile Emissive.document [] "/M/t" start "base" =
      compileNode Emissive.compile Emissive.document [] (start.meet "/M/a") "/M/t" "base" ⟨"/M/a", "out"⟩ := by
  -- The source of the only input is new and present, so it is compiled.
  have connected : start.network.input? "/M/t" "base" = some ⟨"/M/a", "out"⟩ := by decide
  exact step_of_new _ _ _ connected (by decide) List.not_mem_nil

/-- The node is converted to a shader that lacks the output that is read beside the surface. -/
theorem outputs :
    let after := network.convertInputs Emissive.compile Emissive.document [] Registry.empty () "/M/t"
    (after.summary, ((after.network.type? "/M/a").bind after.registry.find?).map (·.hasOutput "mask")) =
      ({ firstLevel := ["/M/a"], converted := ["/M/a"], generated := 1, compiled := 1 }, some false) := by
  -- The compilation is known, and what follows is evaluated.
  have inputs : network.inputNames "/M/t" = ["base"] := by decide
  have begins : ({ network, registry := Registry.empty, compiler := () } : Conversion Unit) = start := rfl
  simp only [Network.convertInputs, inputs, run, List.foldl_cons, begins, step_base,
    Emissive.compileNode_found]
  cbv

/-- The one shader can be registered. -/
theorem admits : Registry.empty.Admits
    (entries (outcomes Emissive.compile Emissive.document [] ["/M/a"] ())) := by
  refine ⟨?_, fun _ _ => rfl⟩
  simp only [outcomes, entries, List.filterMap_cons, List.filterMap_nil]
  -- There is at most one entry.
  split
  · exact List.nodup_nil
  · simp

/-- The node beside the surface keeps reading an output that was declared on entry and that the shader of its
source lacks. -/
theorem lost :
    let after := network.convertInputs Emissive.compile Emissive.document [] Registry.empty () "/M/t"
    Registry.empty.Admits (entries (outcomes Emissive.compile Emissive.document []
      after.summary.firstLevel ())) ∧
    "/M/a" ∈ after.summary.converted ∧
    after.network.input? "/M/b" "in1" = some ⟨"/M/a", "mask"⟩ ∧
    "mask" ∈ (NodeDescription.of Registry.empty library (network.typeOf "/M/a")).outputs.map (·.name) ∧
    ∃ entry, (after.network.type? "/M/a").bind after.registry.find? = some entry ∧
      entry.hasOutput "mask" = false := by
  -- The reader is neither pruned nor converted, so the general statement has it read on.
  intro after
  obtain ⟨summary, found⟩ := Prod.mk.inj outputs
  obtain ⟨entry, registered, lacks⟩ := Option.map_eq_some_iff.1 found
  have firstLevel : after.summary.firstLevel = ["/M/a"] := congrArg (·.firstLevel) summary
  have converted : after.summary.converted = ["/M/a"] := congrArg (·.converted) summary
  have pruned : after.summary.pruned = [] := congrArg (·.pruned) summary
  have admitted : Registry.empty.Admits (entries (outcomes Emissive.compile Emissive.document []
      after.summary.firstLevel ())) := firstLevel ▸ admits
  obtain ⟨_, _, others, _⟩ := Network.convertInputs_outputs Emissive.compile Emissive.document []
    Registry.empty library () network "/M/t" admitted
  -- The reader stands in neither list, and what it reads is a node that was converted.
  refine ⟨admitted, by simp [converted], (others "/M/b" "in1" ⟨"/M/a", "mask"⟩ (by decide)).2 ⟨?_, ?_, ?_⟩,
    by decide, entry, registered, lacks⟩
  · rw [pruned]
    exact List.not_mem_nil
  · rw [converted]
    decide
  · decide

end Conversion.Readers

end ShadeBake

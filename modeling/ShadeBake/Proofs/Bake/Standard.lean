import ShadeBake.Proofs.Bake.Preview

/-! The standard surface after a run: its parameters are those of its adapter, and so are its inputs but for
the reserved ones whose sources could not be converted, as these keep names that the adapter lacks. -/

namespace ShadeBake

namespace Registry

/-- The bundled adapter of the standard surface. -/
theorem findTyped?_standard :
    bundled.findTyped? Surface.standard.adapter ShaderEntry.shaderType = some standardSurfaceParameters := by
  -- The bundled registry is searched as the list that it was read from.
  rw [bundled_eq]
  rfl

/-- The adapter of the standard surface has all inputs of the surface under its own names. -/
theorem standard_renamed {input : String} (declared : input ∈ standardSurfaceSurfaceshader.inputNames) :
    adapterName input ∈ standardSurfaceParameters.inputNames := by
  -- There are finitely many declared inputs, so each is looked up in the adapter's table.
  revert input
  decide

/-- The adapter of the standard surface has all inputs of the surface that are not reserved. -/
theorem standard_kept {input : String} (declared : input ∈ standardSurfaceSurfaceshader.inputNames)
    (free : input ∉ reservedInputs.map (·.1)) : input ∈ standardSurfaceParameters.inputNames := by
  -- There are finitely many declared inputs, so each is looked up in the adapter's table.
  revert input
  decide

/-- The adapter of the standard surface has none of the reserved inputs. -/
theorem standard_lacks {input : String} (reserved : input ∈ reservedInputs.map (·.1)) :
    input ∉ standardSurfaceParameters.inputNames := by
  -- The reserved names are few, and none is in the adapter's table.
  revert input
  decide

end Registry

namespace Network

/-- After a parameter is renamed, each parameter that there is stands under the adapters' name for it, or is
another one that there was. -/
theorem of_parameter?_renameParameter {network : Network} {node name slot : String} {value : Parameter}
    (reads : (network.renameParameter node name).parameter? node slot = some value) :
    slot = adapterName name ∨ (slot ≠ name ∧ ∃ before, network.parameter? node slot = some before) := by
  -- The value was given under the old name or under another one, if it was given at all.
  unfold renameParameter at reads
  cases renamed : renamedInput? name with
  -- A name that is not reserved stays.
  | none =>
    simp only [renamed] at reads
    by_cases same : slot = name
    · exact .inl (same.trans (adapterName_of_none renamed).symm)
    · exact .inr ⟨same, value, reads⟩
  | some other =>
    have moved : adapterName name = other := by simp [adapterName, renamed]
    simp only [renamed] at reads
    cases found : network.parameter? node name with
    | none =>
      simp only [found, parameter?_deleteParameter, true_and] at reads
      split at reads
      · simp at reads
      · rename_i apart
        exact .inr ⟨Ne.symm apart, value, reads⟩
    | some given =>
      simp only [found, parameter?_deleteParameter, parameter?_setParameter, true_and] at reads
      split at reads
      · simp at reads
      · rename_i apart
        split at reads
        · rename_i here
          exact .inl (here.1.symm.trans moved.symm)
        · exact .inr ⟨Ne.symm apart, value, reads⟩

/-- After the parameters of a list are renamed, each parameter stands under the adapters' name for one of
them, or is none of them and was there before. -/
theorem of_parameter?_renameParameter_foldl {network : Network} {node slot : String} {names : List String}
    {value : Parameter}
    (reads : (names.foldl (renameParameter · node) network).parameter? node slot = some value) :
    (∃ name ∈ names, slot = adapterName name) ∨
      (slot ∉ names ∧ ∃ before, network.parameter? node slot = some before) := by
  induction names generalizing network with
  | nil => exact .inr ⟨List.not_mem_nil, value, reads⟩
  | cons head rest ih =>
    rcases ih reads with ⟨name, inside, moved⟩ | ⟨away, given, before⟩
    · exact .inl ⟨name, List.mem_cons_of_mem _ inside, moved⟩
    -- A parameter that the rest leaves alone is one that the head left.
    · rcases of_parameter?_renameParameter before with moved | ⟨apart, earlier⟩
      · exact .inl ⟨head, List.mem_cons_self, moved⟩
      · exact .inr ⟨by simp [apart, away], earlier⟩

/-- The parameters of an adapted standard surface stand under the adapters' names for those that there were,
and those of other surfaces stay. -/
theorem mem_parameterNames_adapt {network : Network} {terminal name : String} {surface : Surface}
    {adapter closure : ShaderEntry}
    (listed : name ∈ (network.adapt terminal surface adapter closure).parameterNames terminal) :
    ∃ old ∈ network.parameterNames terminal,
      (surface = .standard ∧ name = adapterName old) ∨ (surface = .preview ∧ name = old) := by
  obtain ⟨value, given⟩ := mem_parameterNames_iff.1 listed
  -- The closure is another node, and so is made and connected without touching the parameters.
  have same := get?_connectClosure_foldl_of_ne
    (((network.setType terminal surface.adapter).renameParameters surface terminal).setType
      (closureNode terminal) closureNodeType) terminal adapter closure.inputNames (ne_closureNode terminal)
  have renamed : ((network.setType terminal surface.adapter).renameParameters surface terminal).parameter?
      terminal name = some value := by
    rw [← given, ← parameter?_setType _ (closureNode terminal) terminal name closureNodeType]
    exact (congrArg (fun record : Option Node => record.bind (·.parameters.get? name)) same).symm
  have before : ∀ old, old ∈ (network.setType terminal surface.adapter).parameterNames terminal ↔
      old ∈ network.parameterNames terminal := by
    intro old
    rw [mem_parameterNames_iff, mem_parameterNames_iff, parameter?_setType]
  cases surface with
  | standard =>
    rcases of_parameter?_renameParameter_foldl renamed with ⟨old, inside, moved⟩ | ⟨away, earlier⟩
    · exact ⟨old, (before old).1 inside, .inl ⟨rfl, moved⟩⟩
    -- All parameters that there were are renamed.
    · exact absurd (mem_parameterNames_iff.2 earlier) away
  | preview => exact ⟨name, (before name).1 (mem_parameterNames_iff.2 ⟨value, renamed⟩), .inr ⟨rfl, rfl⟩⟩

end Network

namespace Bake

variable {σ : Type} {context : BakeContext} {compile : Compiler σ} {registry : Registry} {compiler : σ}
  {network : Network} {terminal : String}

/-- A terminal that has a parameter after its inputs were converted was not converted itself, and has it from
before. -/
theorem of_parameterNames_finish {name : String}
    (listed : name ∈ ((rewriting context compile registry compiler network terminal).finish
      terminal).network.parameterNames terminal) :
    name ∈ network.parameterNames terminal ∧
      ((rewriting context compile registry compiler network terminal).finish terminal).network.typeOf
        terminal = network.typeOf terminal := by
  obtain ⟨value, given⟩ := Network.mem_parameterNames_iff.1 listed
  rw [Conversion.parameter?_finish] at given
  have records := (Conversion.keepsRecords_start compile
    (routedDocument context registry network terminal).document context.library.searchPaths registry compiler
    network terminal).run (network.inputNames terminal)
  -- A terminal that is converted loses its parameters.
  have plain : terminal ∉ (rewriting context compile registry compiler network terminal).summary.converted := by
    intro converted
    have lost := records.parameter?_of_converted converted name
    exact absurd (lost.symm.trans given) (by simp)
  obtain ⟨typed, parameters⟩ := Conversion.own_run (network.inputNames terminal) plain
  rw [Conversion.typeOf_finish]
  exact ⟨Network.mem_parameterNames_iff.2 ⟨value, (parameters name).symm.trans given⟩, typed⟩

/-- A standard surface that is transformed has the parameters of its adapter, and it keeps to the adapter's
inputs exactly if no reserved input is left, which is one whose source was not converted. -/
theorem standard_bake (found : surfaceNode? Registry.bundled network = some terminal)
    (typed : network.typeOf terminal = Surface.standard.nodeType)
    (parameters : ∀ name ∈ network.parameterNames terminal,
      name ∈ Registry.standardSurfaceSurfaceshader.inputNames)
    (inputs : ∀ input ∈ network.inputNames terminal,
      input ∈ Registry.standardSurfaceSurfaceshader.inputNames)
    (done : (network.bake context compile Registry.bundled compiler).report.transformed = true) :
    let baked := network.bake context compile Registry.bundled compiler
    let rewritten := rewriting context compile Registry.bundled compiler network terminal
    (∀ name ∈ baked.network.parameterNames terminal, name ∈ Registry.standardSurfaceParameters.inputNames) ∧
    ((∀ slot ∈ baked.network.inputNames terminal, slot ∈ Registry.standardSurfaceParameters.inputNames) ↔
      ∀ name ∈ reservedInputs.map (·.1), baked.network.input? terminal name = none) ∧
    ∀ name ∈ reservedInputs.map (·.1), ∀ connection,
      baked.network.input? terminal name = some connection ↔
        network.input? terminal name = some connection ∧
          connection.source ∉ rewritten.summary.converted ∧ terminal ∉ rewritten.summary.converted := by
  intro baked rewritten
  have places : ∀ slot, baked.network.input? terminal slot = rewritten.network.input? terminal slot :=
    input?_bake found
  refine ⟨fun name listed => ?_, ⟨fun all name reserved => ?_, fun free slot inside => ?_⟩,
    fun name reserved connection => ?_⟩
  -- A parameter comes from one of the surface, which is adapted as a standard one then.
  · obtain ⟨surface, adapter, closure, kind, adapted, _⟩ :=
      bake_of_transformed context compile Registry.bundled compiler network terminal found done
    have adapted : baked.network = _ := adapted
    rw [adapted] at listed
    obtain ⟨old, given, renamed⟩ := Network.mem_parameterNames_adapt listed
    obtain ⟨original, sameType⟩ := of_parameterNames_finish given
    rw [sameType, typed] at kind
    have standard : surface = .standard := (Except.ok.inj kind).symm
    rcases renamed with ⟨_, moved⟩ | ⟨preview, _⟩
    · exact moved ▸ Registry.standard_renamed (parameters old original)
    · simp [standard] at preview
  · refine Classical.byContradiction fun connected => ?_
    obtain ⟨connection, read⟩ := Option.ne_none_iff_exists'.1 connected
    exact Registry.standard_lacks reserved (all _ (Network.mem_inputNames_iff.2 ⟨connection, read⟩))
  -- A slot that is connected is an input of the surface or its name for the adapters.
  · obtain ⟨connection, connected⟩ := Network.mem_inputNames_iff.1 inside
    have read := connected
    rw [places] at read
    obtain ⟨input, original, place⟩ := readsFromInputs_rewriting slot connection read
    have known := inputs input (Network.mem_inputNames_iff.2 ⟨connection, original⟩)
    rcases place with rfl | ⟨rfl, _⟩
    · refine Registry.standard_kept known fun reserved => ?_
      simp [free slot reserved] at connected
    · exact Registry.standard_renamed known
  · rw [places]
    exact Conversion.input?_reserved compile _ _ Registry.bundled compiler network terminal reserved connection

end Bake

/-- Baking a material whose surface is a standard surface leaves it, once it is transformed, with parameters
of its adapter only. Its inputs are those of the adapter exactly if no reserved input is connected any more.
A reserved input stays connected under its own name, which the adapter lacks, exactly if neither its source
nor the surface itself was converted. -/
theorem Network.bakeMaterial_standard {σ : Type} (context : BakeContext) (compile : Compiler σ)
    (compiler : σ) (materialPath : String) (network : Network) (terminal : String)
    (found : Bake.surfaceNode? Registry.bundled network = some terminal)
    (typed : network.typeOf terminal = Surface.standard.nodeType)
    (declared : ∀ definition, Registry.bundled.definition? (network.typeOf terminal) = some definition →
      (∀ name ∈ network.parameterNames terminal, name ∈ definition.inputNames) ∧
      ∀ input ∈ network.inputNames terminal, input ∈ definition.inputNames)
    (done : (network.bakeMaterial context compile Registry.bundled compiler
      materialPath).report.transformed = true) :
    let entry := if materialPath = "" then network else { network with materialPath }
    let baked := network.bakeMaterial context compile Registry.bundled compiler materialPath
    let rewritten := Bake.rewriting context compile Registry.bundled compiler entry terminal
    ∃ adapter, Registry.bundled.findTyped? Surface.standard.adapter ShaderEntry.shaderType = some adapter ∧
    (∀ name ∈ reservedInputs.map (·.1), name ∉ adapter.inputNames) ∧
    (∀ name ∈ baked.network.parameterNames terminal, name ∈ adapter.inputNames) ∧
    ((∀ slot ∈ baked.network.inputNames terminal, slot ∈ adapter.inputNames) ↔
      ∀ name ∈ reservedInputs.map (·.1), baked.network.input? terminal name = none) ∧
    ∀ name ∈ reservedInputs.map (·.1), ∀ connection,
      baked.network.input? terminal name = some connection ↔
        network.input? terminal name = some connection ∧
          connection.source ∉ rewritten.summary.converted ∧ terminal ∉ rewritten.summary.converted := by
  -- The declared names are those of the bundled surface shader, whose type the terminal has.
  obtain ⟨parameters, inputs⟩ := declared _ (typed ▸ Registry.definition?_standard)
  refine ⟨_, Registry.findTyped?_standard, fun name => Registry.standard_lacks, ?_⟩
  unfold bakeMaterial at done ⊢
  -- The material's path is no part of the nodes or the bindings.
  split at done
  · rename_i same
    simp only [if_pos same]
    exact Bake.standard_bake found typed parameters inputs done
  · rename_i other
    simp only [if_neg other]
    have entered : Bake.surfaceNode? Registry.bundled { network with materialPath } = some terminal := found
    exact Bake.standard_bake entered typed parameters inputs done

namespace Bake.Standard

/-- A material with a standard surface whose emission reads a node and whose subsurface has a value. -/
def network : Network where
  materialPath := "/M"
  nodes := Dict.ofList [
    ("/M/n", ⟨"noise", Dict.empty, Dict.empty⟩),
    ("/M/t", ⟨Surface.standard.nodeType, Dict.ofList [("subsurface", .plain (.bool true))],
      Dict.ofList [("emission", ⟨"/M/n", "out"⟩)]⟩)]
  terminals := Dict.ofList [("surface", ⟨"/M/t", "out"⟩)]

/-- A compiler that makes no shader. -/
def compile : Compiler Unit := fun _ _ state => (⟨none, []⟩, state)

/-- No node has a shader. -/
theorem outcomes_none (document : Document) (searchPaths nodes : List String) (node : String)
    (entry : ShaderEntry) :
    (node, some entry) ∉ Conversion.outcomes compile document searchPaths nodes () := by
  -- This compiler answers nothing, whatever has been generated.
  induction nodes with
  | nil => exact List.not_mem_nil
  | cons head rest ih =>
    have nothing : (Conversion.compiledShader compile document searchPaths head ()).1 = none := by
      unfold Conversion.compiledShader
      split
      · rfl
      · rfl
    simp only [Conversion.outcomes, nothing, Option.bind_none, List.mem_cons, Prod.mk.injEq, reduceCtorEq,
      and_false, false_or]
    exact ih

/-- Nothing is converted, and so the network and the registry are those on entry when the surface is
transformed. -/
theorem unconverted :
    (rewriting Shared.context compile Registry.bundled () network "/M/t").summary.converted = [] ∧
    (convertInputs Shared.context compile Registry.bundled () network "/M/t").network = network ∧
    (convertInputs Shared.context compile Registry.bundled () network "/M/t").registry = Registry.bundled := by
  -- Without an entry there is nothing to register, to bind, or to remove afterwards.
  obtain ⟨same, registered, _⟩ :=
    convertInputs_eq Shared.context compile Registry.bundled () network "/M/t"
  have records := (Conversion.keepsRecords_start compile
    (routedDocument Shared.context Registry.bundled network "/M/t").document
    Shared.context.library.searchPaths Registry.bundled () network "/M/t").run (network.inputNames "/M/t")
  -- No node has an entry, so the list of those inserted is empty.
  have none : Conversion.entries (Conversion.outcomes compile
      (routedDocument Shared.context Registry.bundled network "/M/t").document
      Shared.context.library.searchPaths
      (rewriting Shared.context compile Registry.bundled () network "/M/t").summary.firstLevel ()) = [] := by
    rw [List.eq_nil_iff_forall_not_mem]
    intro entry listed
    obtain ⟨⟨node, _⟩, inside, rfl⟩ := List.mem_filterMap.1 listed
    exact outcomes_none _ _ _ node entry inside
  have idle : (rewriting Shared.context compile Registry.bundled () network "/M/t").summary.converted = [] := by
    rw [List.eq_nil_iff_forall_not_mem]
    intro node converted
    obtain ⟨entry, done⟩ := Conversion.mem_successes_iff.1 (records.converted ▸ converted)
    exact outcomes_none _ _ _ node entry done
  have inserted : (rewriting Shared.context compile Registry.bundled () network "/M/t").registry =
      Registry.bundled.insertAll (Conversion.entries (Conversion.outcomes compile
        (routedDocument Shared.context Registry.bundled network "/M/t").document
        Shared.context.library.searchPaths
        (rewriting Shared.context compile Registry.bundled () network "/M/t").summary.firstLevel ())) :=
    records.registered
  rw [none, Registry.insertAll, List.foldl_nil] at inserted
  -- What is idle leaves the network, and the registry is what it was with nothing inserted.
  have untouched := (records.finish_of_idle idle).1
  exact ⟨idle, same.trans untouched, registered.trans inserted⟩

/-- The surface is bound to the node with the definition. -/
theorem surfaceNode?_eq : surfaceNode? Registry.bundled network = some "/M/t" := by
  -- The binding, its type and the definition of that type are each known.
  have bound : network.terminal? Network.surfaceTerminal = some ⟨"/M/t", "out"⟩ := by decide
  have typed : network.typeOf "/M/t" = Surface.standard.nodeType := by decide
  simp only [surfaceNode?, bound, typed, Registry.definition?_standard, Option.bind_eq_bind, Option.bind_some,
    Option.pure_def]

/-- The surface is transformed all the same. -/
theorem transformed :
    (network.bakeMaterial Shared.context compile Registry.bundled () "").report.transformed = true := by
  have closure : Registry.bundled.findTyped? closureNodeType ShaderEntry.closureType =
      some Registry.pxrSurface := by
    rw [Registry.bundled_eq]
    rfl
  have kind : Surface.ofNodeType (network.typeOf "/M/t") = .ok .standard := by decide
  obtain ⟨_, same, registered⟩ := unconverted
  -- Neither the adapter nor the closure is missing.
  have adapted : network.transformTerminal Registry.bundled "/M/t" = .ok (network.adapt "/M/t" .standard
      Registry.standardSurfaceParameters Registry.pxrSurface) := by
    simp only [Network.transformTerminal, kind, Registry.findTyped?_standard, closure]
  simp only [Network.bakeMaterial, if_true,
    bake_eq Shared.context compile Registry.bundled () network "/M/t" surfaceNode?_eq, transform, same,
    registered, adapted]

/-- The emission of the baked material keeps its name, which the adapter lacks, while the parameter is
renamed. -/
theorem emission_stays :
    let baked := network.bakeMaterial Shared.context compile Registry.bundled () ""
    baked.report.transformed = true ∧
    baked.network.input? "/M/t" "emission" = some ⟨"/M/n", "out"⟩ ∧
    ∃ adapter, Registry.bundled.findTyped? Surface.standard.adapter ShaderEntry.shaderType = some adapter ∧
      "emission" ∉ adapter.inputNames ∧
      (∀ name ∈ baked.network.parameterNames "/M/t", name ∈ adapter.inputNames) ∧
      ¬∀ slot ∈ baked.network.inputNames "/M/t", slot ∈ adapter.inputNames := by
  -- The compiler of the network answers nothing, so no connection of the terminal is moved.
  have typed : network.typeOf "/M/t" = Surface.standard.nodeType := by decide
  have declared : ∀ definition, Registry.bundled.definition? (network.typeOf "/M/t") = some definition →
      (∀ name ∈ network.parameterNames "/M/t", name ∈ definition.inputNames) ∧
      ∀ input ∈ network.inputNames "/M/t", input ∈ definition.inputNames := by
    intro other defines
    rw [typed, Registry.definition?_standard] at defines
    cases defines
    exact ⟨by decide, by decide⟩
  obtain ⟨adapter, adapts, lacks, parameters, keeps, stays⟩ := Network.bakeMaterial_standard Shared.context
    compile () "" network "/M/t" surfaceNode?_eq typed declared transformed
  have reserved : "emission" ∈ reservedInputs.map (·.1) := by decide
  have idle := unconverted.1
  have emission := (stays "emission" reserved ⟨"/M/n", "out"⟩).2 ⟨by decide, by simp [idle], by simp [idle]⟩
  -- The adapter would have all connected inputs only if the emission were not connected.
  refine ⟨transformed, emission, adapter, adapts, lacks _ reserved, parameters, fun all => ?_⟩
  have freed := keeps.1 all "emission" reserved
  rw [emission] at freed
  simp at freed

end Bake.Standard

end ShadeBake

import ShadeBake.Proofs.Bake.Repeat

/-! A terminal is transformed as a whole or not at all. What a transformation leaves are the terminal's parameters
under the adapters' names for them, and a closure that reads what the adapter has for it. -/

namespace ShadeBake

/-- The adapters' name for an input is that beside it in the table of the reserved names. -/
theorem renamedInput?_eq_some_iff_mem {name renamed : String} :
    renamedInput? name = some renamed ↔ (name, renamed) ∈ reservedInputs := by
  -- The table has each name once, so a look-up finds the row that is there.
  have distinct : (reservedInputs.map (·.1)).Nodup := by decide
  exact ⟨Dict.mem_of_lookup, Dict.lookup_of_nodup distinct⟩

/-- No reserved name is one that the adapters have for an input. -/
theorem reserved_ne : ∀ row ∈ reservedInputs, ∀ other ∈ reservedInputs, row.1 ≠ other.2 := by
  -- The rows of the table are compared pair by pair.
  decide

/-- The adapters have distinct names for distinct inputs. -/
theorem reserved_inj : ∀ row ∈ reservedInputs, ∀ other ∈ reservedInputs, row.2 = other.2 → row = other := by
  -- The rows of the table are compared pair by pair.
  decide

/-- A type is that of a surface exactly if the nodes of the surface have it. -/
theorem Surface.ofNodeType_eq_ok_iff {type : String} {surface : Surface} :
    ofNodeType type = .ok surface ↔ type = surface.nodeType := by
  -- The two node types differ, so a type is that of one surface at most.
  have apart : nodeType preview ≠ nodeType standard := by decide
  unfold ofNodeType
  by_cases isStandard : type = nodeType standard
  · cases surface with
    | standard => simp [isStandard]
    | preview => simp [isStandard, apart.symm]
  · by_cases isPreview : type = nodeType preview
    · cases surface with
      | standard => simp [isPreview, apart]
      | preview => simp [isPreview, apart]
    · cases surface with
      | standard => simp [isStandard, isPreview]
      | preview => simp [isStandard, isPreview]

namespace Network

/-! ### Parameters of the terminal -/

section parameters

variable (network : Network) (node name : String)

/-- A name that is not reserved is left alone. -/
theorem renameParameter_of_none (free : renamedInput? name = none) :
    network.renameParameter node name = network := by
  -- A name that is not reserved is renamed to nothing.
  unfold renameParameter
  rw [free]

/-- What is authored under a reserved name moves to the adapters' name and replaces what was authored there. -/
theorem parameter?_renameParameter {name renamed : String} (reserved : renamedInput? name = some renamed)
    (slot : String) :
    (network.renameParameter node name).parameter? node slot =
      if slot = name then none
      else if slot = renamed then (network.parameter? node name).or (network.parameter? node renamed)
      else network.parameter? node slot := by
  unfold renameParameter
  rw [reserved]
  dsimp only
  cases authored : network.parameter? node name with
  -- Nothing was authored, so there is nothing to move.
  | none =>
    simp only [parameter?_deleteParameter, true_and, Option.none_or, eq_comm (a := name)]
    by_cases new : slot = renamed
    · rw [if_pos new, new]
    · rw [if_neg new]
  | some value =>
    -- A node with a parameter has a record, so the new name can be set.
    have known : node ∈ network.nodeNames := by
      obtain ⟨record, held, _⟩ := Option.bind_eq_some_iff.1 authored
      exact mem_nodeNames_iff.2 (by simp [held])
    simp only [parameter?_deleteParameter, parameter?_setParameter, known, true_and, and_true, Option.some_or,
      eq_comm (a := name), eq_comm (a := renamed)]

variable {row : String × String} (inside : row ∈ reservedInputs)
include inside

/-- Renaming a parameter takes it away from its reserved name, and puts nothing under another one. -/
theorem parameter?_renameParameter_reserved :
    (network.renameParameter node name).parameter? node row.1 =
      if row.1 = name then none else network.parameter? node row.1 := by
  -- The row is the one that is renamed or another, and no new name is an old one.
  cases reserved : renamedInput? name with
  | none =>
    have apart : row.1 ≠ name := by
      rintro rfl
      simp [renamedInput?_eq_some_iff_mem.2 inside] at reserved
    rw [renameParameter_of_none network node name reserved, if_neg apart]
  | some renamed =>
    have apart := reserved_ne row inside _ (renamedInput?_eq_some_iff_mem.1 reserved)
    rw [parameter?_renameParameter network node reserved, if_neg apart]

/-- Renaming a parameter keeps what counts for the adapters: what stands under a reserved name, or if nothing does
what stands under their name for it. -/
theorem effective_renameParameter :
    ((network.renameParameter node name).parameter? node row.1).or
        ((network.renameParameter node name).parameter? node row.2) =
      (network.parameter? node row.1).or (network.parameter? node row.2) := by
  cases reserved : renamedInput? name with
  | none => rw [renameParameter_of_none network node name reserved]
  | some renamed =>
    have listed := renamedInput?_eq_some_iff_mem.1 reserved
    have apart : row.2 ≠ name := (reserved_ne _ listed row inside).symm
    rw [parameter?_renameParameter_reserved network node name inside,
      parameter?_renameParameter network node reserved, if_neg apart]
    by_cases same : row.1 = name
    -- The parameter of the row itself moves from the one name to the other.
    · have renames : row.2 = renamed := by
        rw [← same, renamedInput?_eq_some_iff_mem.2 inside] at reserved
        exact Option.some.inj reserved
      rw [if_pos same, if_pos renames, Option.none_or, same, renames]
    -- Another name is moved, and no two rows share a new name.
    · have others : row.2 ≠ renamed := fun equal => same (congrArg Prod.fst (reserved_inj row inside _ listed equal))
      rw [if_neg same, if_neg others]

/-- Renaming parameters leaves nothing under the reserved names among them. -/
theorem parameter?_renameParameter_foldl_reserved (names : List String) :
    (names.foldl (renameParameter · node) network).parameter? node row.1 =
      if row.1 ∈ names then none else network.parameter? node row.1 := by
  -- A reserved name is gone as soon as it is met, and nothing brings it back.
  induction names generalizing network with
  | nil => simp
  | cons head rest ih =>
    rw [List.foldl_cons, ih, parameter?_renameParameter_reserved network node head inside]
    by_cases same : row.1 = head
    · simp [same]
    · simp [same]

/-- Renaming parameters keeps what counts for the adapters. -/
theorem effective_renameParameter_foldl (names : List String) :
    ((names.foldl (renameParameter · node) network).parameter? node row.1).or
        ((names.foldl (renameParameter · node) network).parameter? node row.2) =
      (network.parameter? node row.1).or (network.parameter? node row.2) := by
  -- One step keeps it, whichever parameter is renamed.
  induction names generalizing network with
  | nil => rfl
  | cons head rest ih => exact (ih _).trans (effective_renameParameter network node head inside)

omit inside in
/-- Renaming parameters leaves those whose names are not in the table. -/
theorem parameter?_renameParameter_foldl_of_ne (names : List String) {slot : String}
    (apart : ∀ row ∈ reservedInputs, slot ≠ row.1 ∧ slot ≠ row.2) :
    (names.foldl (renameParameter · node) network).parameter? node slot = network.parameter? node slot := by
  -- A name outside the table is neither removed nor written in any step.
  induction names generalizing network with
  | nil => rfl
  | cons head rest ih =>
    rw [List.foldl_cons, ih]
    cases reserved : renamedInput? head with
    | none => rw [renameParameter_of_none network node head reserved]
    | some renamed =>
      obtain ⟨old, new⟩ := apart _ (renamedInput?_eq_some_iff_mem.1 reserved)
      rw [parameter?_renameParameter network node reserved, if_neg old, if_neg new]

/-- The parameters of a standard surface have no reserved name in the end, and under the adapters' name for one
stands what was authored under either, the reserved one first. -/
theorem parameter?_renameParameters_standard :
    (network.renameParameters .standard node).parameter? node row.1 = none ∧
    (network.renameParameters .standard node).parameter? node row.2 =
      (network.parameter? node row.1).or (network.parameter? node row.2) := by
  unfold renameParameters
  -- All that is authored is renamed, so a reserved name that is not renamed was not authored.
  have gone : ((network.parameterNames node).foldl (renameParameter · node) network).parameter? node row.1 =
      none := by
    rw [parameter?_renameParameter_foldl_reserved network node inside]
    by_cases authored : row.1 ∈ network.parameterNames node
    · rw [if_pos authored]
    · rw [if_neg authored]
      exact Option.eq_none_iff_forall_ne_some.2 fun value held => authored (mem_parameterNames_iff.2 ⟨value, held⟩)
  have kept := effective_renameParameter_foldl network node inside (network.parameterNames node)
  rw [gone, Option.none_or] at kept
  exact ⟨gone, kept⟩

end parameters

/-! ### Connections of the closure -/

/-- Connecting inputs of the closure connects those that the adapter has an output for to that output. -/
theorem input?_connectClosure_foldl (network : Network) (terminal : String) (adapter : ShaderEntry)
    (names : List String) (known : closureNode terminal ∈ network.nodeNames) (slot : String) :
    (names.foldl (connectClosure adapter terminal) network).input? (closureNode terminal) slot =
      if slot ∈ names ∧ adapter.hasOutput (slot ++ "Out") = true then some ⟨terminal, slot ++ "Out"⟩
      else network.input? (closureNode terminal) slot := by
  induction names generalizing network with
  | nil => simp
  | cons head rest ih =>
    rw [List.foldl_cons]
    unfold connectClosure at ih ⊢
    by_cases output : adapter.hasOutput (head ++ "Out") = true
    · rw [if_pos output, ih _ (by simpa using known), input?_setInput]
      by_cases same : slot = head
      -- An input that is listed again is connected to the same output again.
      · subst same
        simp [output, known]
      · simp [same, Ne.symm same]
    -- Without the output nothing is connected.
    · rw [if_neg output, ih network known]
      by_cases same : slot = head
      · subst same
        simp [output]
      · simp [same]

/-! ### The transformed network -/

/-- What transforming a terminal leaves: the terminal as its adapter, a closure that reads it, and the surface
bound to the closure. -/
structure TransformedTo (network : Network) (terminal : String) (surface : Surface) (adapter closure : ShaderEntry)
    (transformed : Network) : Prop where
  /-- The terminal has the type of the adapter. -/
  type : transformed.type? terminal = some surface.adapter
  /-- The terminal keeps its connections. -/
  inputs : ∀ slot, transformed.input? terminal slot = network.input? terminal slot
  /-- What is authored under a name that the standard adapter reserves replaces what is authored under its own. -/
  reserved : surface = .standard → ∀ row ∈ reservedInputs,
    transformed.parameter? terminal row.1 = none ∧
    transformed.parameter? terminal row.2 =
      (network.parameter? terminal row.1).or (network.parameter? terminal row.2)
  /-- All other parameters stay; the other adapter reserves no names. -/
  parameters : ∀ slot, (surface = .standard → ∀ row ∈ reservedInputs, slot ≠ row.1 ∧ slot ≠ row.2) →
    transformed.parameter? terminal slot = network.parameter? terminal slot
  closureType : transformed.type? (closureNode terminal) = some closureNodeType
  /-- The closure reads of the terminal what the adapter puts out for it. -/
  closureInputs : ∀ slot, transformed.input? (closureNode terminal) slot =
    if slot ∈ closure.inputNames ∧ adapter.hasOutput (slot ++ "Out") = true then some ⟨terminal, slot ++ "Out"⟩
    else network.input? (closureNode terminal) slot
  closureParameters : ∀ slot, transformed.parameter? (closureNode terminal) slot =
    network.parameter? (closureNode terminal) slot
  /-- The records of all other nodes stay. -/
  nodes : ∀ node, node ≠ terminal → node ≠ closureNode terminal →
    transformed.nodes.get? node = network.nodes.get? node
  bindings : ∀ slot, transformed.terminal? slot =
    if slot = surfaceTerminal then some ⟨closureNode terminal, ""⟩ else network.terminal? slot
  materialPath : transformed.materialPath = network.materialPath

section adapt

variable (network : Network) (terminal : String) (surface : Surface) (adapter closure : ShaderEntry)

/-- The parameters of an adapted network are those that renaming leaves. -/
theorem parameter?_adapt (node slot : String) :
    (network.adapt terminal surface adapter closure).parameter? node slot =
      ((network.setType terminal surface.adapter).renameParameters surface terminal).parameter? node slot := by
  -- What comes after the renaming changes types and connections only.
  refine ((connectClosure_foldl _ terminal adapter closure.inputNames).1.parameters node slot).trans ?_
  rw [parameter?_setType]

/-- The closure has the connections that it had, but for the inputs that the adapter has an output for. -/
theorem input?_adapt_closureNode (slot : String) :
    (network.adapt terminal surface adapter closure).input? (closureNode terminal) slot =
      if slot ∈ closure.inputNames ∧ adapter.hasOutput (slot ++ "Out") = true then some ⟨terminal, slot ++ "Out"⟩
      else network.input? (closureNode terminal) slot := by
  -- The closure's connections are made last, on what its record had before.
  have renamed := alike_renameParameters (network.setType terminal surface.adapter) surface terminal
  have connected := input?_connectClosure_foldl
    (((network.setType terminal surface.adapter).renameParameters surface terminal).setType
      (closureNode terminal) closureNodeType) terminal adapter closure.inputNames
    ((mem_nodeNames_setType ..).2 (.inl rfl)) slot
  rw [input?_setType, renamed.inputs, input?_setType] at connected
  exact connected

/-- Adapting a terminal does all of this. -/
theorem transformedTo_adapt :
    TransformedTo network terminal surface adapter closure
      (network.adapt terminal surface adapter closure) where
  type := by
    have present := ((adapted_adapt network terminal surface adapter closure).present terminal).2 (.inr (.inl rfl))
    rw [type?_of_hasNode present, typeOf_adapt, if_neg (ne_closureNode terminal).symm, if_pos rfl]
  inputs slot := input?_adapt network terminal surface adapter closure slot
  reserved isStandard row inside := by
    subst isStandard
    -- The new name is stored with the value of the old one, whether that was given or not.
    have renamed := parameter?_renameParameters_standard (network.setType terminal Surface.standard.adapter)
      terminal inside
    simp only [parameter?_setType] at renamed
    rwa [parameter?_adapt, parameter?_adapt]
  parameters slot free := by
    rw [parameter?_adapt]
    cases surface with
    | standard => exact (parameter?_renameParameter_foldl_of_ne _ terminal _ (free rfl)).trans (parameter?_setType ..)
    | preview => exact parameter?_setType ..
  closureType := by
    have present := ((adapted_adapt network terminal surface adapter closure).present _).2 (.inl rfl)
    rw [type?_of_hasNode present, typeOf_adapt, if_pos rfl]
  closureInputs slot := input?_adapt_closureNode network terminal surface adapter closure slot
  closureParameters slot := by
    -- The names change at the terminal, which is another node.
    have same := get?_renameParameters_of_ne (network.setType terminal surface.adapter) surface
      (ne_closureNode terminal).symm
    rw [parameter?_adapt, parameter?, same, ← parameter?, parameter?_setType]
  nodes node other apart := get?_adapt network terminal surface adapter closure other apart
  bindings := (adapted_adapt network terminal surface adapter closure).bindings
  materialPath := materialPath_adapt network terminal surface adapter closure

end adapt

/-- A closure that was not there before has no parameters, and one connection for each of its inputs that the
adapter has an output for, to that output. -/
theorem TransformedTo.closure_of_new {network transformed : Network} {terminal : String} {surface : Surface}
    {adapter closure : ShaderEntry}
    (transforms : TransformedTo network terminal surface adapter closure transformed)
    (new : closureNode terminal ∉ network.nodeNames) :
    (∀ slot, transformed.parameter? (closureNode terminal) slot = none) ∧
    ∀ slot connection, transformed.input? (closureNode terminal) slot = some connection ↔
      slot ∈ closure.inputNames ∧ adapter.hasOutput (slot ++ "Out") = true ∧
        connection = ⟨terminal, slot ++ "Out"⟩ := by
  -- A record that was missing has nothing in it, so all that is there was connected.
  have absent := get?_eq_none new
  refine ⟨fun slot => ?_, fun slot connection => ?_⟩
  · rw [transforms.closureParameters, parameter?, absent, Option.bind_none]
  · rw [transforms.closureInputs, input?, absent, Option.bind_none]
    by_cases fed : slot ∈ closure.inputNames ∧ adapter.hasOutput (slot ++ "Out") = true
    · simp [fed, eq_comm]
    · rw [if_neg fed]
      simpa using fun listed output _ => fed ⟨listed, output⟩

/-- A terminal is transformed exactly if it is a surface, and the adapter for this and the closure are registered;
it is then adapted with these. -/
theorem transformTerminal_eq_ok_iff {registry : Registry} {network transformed : Network} {terminal : String} :
    network.transformTerminal registry terminal = .ok transformed ↔
      ∃ surface adapter closure, network.typeOf terminal = surface.nodeType ∧
        registry.findTyped? surface.adapter ShaderEntry.shaderType = some adapter ∧
        registry.findTyped? closureNodeType ShaderEntry.closureType = some closure ∧
        transformed = network.adapt terminal surface adapter closure := by
  unfold transformTerminal
  constructor
  -- Each look-up that fails gives a warning, so all three have succeeded.
  · intro done
    split at done
    · simp at done
    · rename_i surface typed
      split at done
      · simp at done
      · rename_i adapter adapts
        split at done
        · simp at done
        · rename_i closure closes
          simp only [Except.ok.injEq] at done
          exact ⟨surface, adapter, closure, Surface.ofNodeType_eq_ok_iff.1 typed, adapts, closes, done.symm⟩
  -- With all three found nothing else can fail.
  · rintro ⟨surface, adapter, closure, typed, adapts, closes, rfl⟩
    simp only [Surface.ofNodeType_eq_ok_iff.2 typed, adapts, closes]

end Network

namespace Bake

/-- A terminal is transformed as a whole or not at all. It is transformed exactly if it is a surface of one of the
two kinds, and the adapter for this kind and the closure are registered. If it cannot be transformed, a run goes on
with the network as it is, and nothing but one warning is added. -/
theorem transform_allOrNothing {σ : Type} (baked : Baked σ) (terminal : String) :
    let network := baked.network
    let outcome := network.transformTerminal baked.registry terminal
    ((∃ transformed, outcome = .ok transformed) ↔
      ∃ surface : Surface, network.typeOf terminal = surface.nodeType ∧
        (∃ entry ∈ baked.registry.entries,
          entry.identifier = surface.adapter ∧ entry.sourceType = ShaderEntry.shaderType) ∧
        ∃ entry ∈ baked.registry.entries,
          entry.identifier = closureNodeType ∧ entry.sourceType = ShaderEntry.closureType) ∧
    (∀ warning, outcome = .error warning →
      transform baked terminal =
        { baked with report := { baked.report with warnings := baked.report.warnings ++ [warning] } }) ∧
    ∀ transformed, outcome = .ok transformed →
      transform baked terminal =
        { baked with network := transformed, report := { baked.report with transformed := true } } ∧
      ∃ surface adapter closure, network.typeOf terminal = surface.nodeType ∧
        baked.registry.findTyped? surface.adapter ShaderEntry.shaderType = some adapter ∧
        baked.registry.findTyped? closureNodeType ShaderEntry.closureType = some closure ∧
        network.TransformedTo terminal surface adapter closure transformed ∧
        (closureNode terminal ∉ network.nodeNames →
          (∀ slot, transformed.parameter? (closureNode terminal) slot = none) ∧
          ∀ slot connection, transformed.input? (closureNode terminal) slot = some connection ↔
            slot ∈ closure.inputNames ∧ adapter.hasOutput (slot ++ "Out") = true ∧
              connection = ⟨terminal, slot ++ "Out"⟩) := by
  -- Success is told by the equation of the transformation, and failure leaves all but the warnings.
  intro network outcome
  refine ⟨⟨?_, ?_⟩, fun warning failed => ?_, fun transformed done => ⟨?_, ?_⟩⟩
  · rintro ⟨transformed, done⟩
    obtain ⟨surface, adapter, closure, typed, adapts, closes, _⟩ := Network.transformTerminal_eq_ok_iff.1 done
    exact ⟨surface, typed, Registry.findTyped?_ne_none_iff.1 (by simp [adapts]),
      Registry.findTyped?_ne_none_iff.1 (by simp [closes])⟩
  · rintro ⟨surface, typed, adapts, closes⟩
    -- An entry that is registered is found, or another one of its identifier and type in its stead.
    obtain ⟨adapter, found⟩ := Option.ne_none_iff_exists'.1 (Registry.findTyped?_ne_none_iff.2 adapts)
    obtain ⟨closure, found'⟩ := Option.ne_none_iff_exists'.1 (Registry.findTyped?_ne_none_iff.2 closes)
    exact ⟨_, Network.transformTerminal_eq_ok_iff.2 ⟨surface, adapter, closure, typed, found, found', rfl⟩⟩
  · unfold transform
    rw [show baked.network.transformTerminal baked.registry terminal = .error warning from failed]
  · unfold transform
    rw [show baked.network.transformTerminal baked.registry terminal = .ok transformed from done]
  · obtain ⟨surface, adapter, closure, typed, adapts, closes, rfl⟩ := Network.transformTerminal_eq_ok_iff.1 done
    have transforms := Network.transformedTo_adapt network terminal surface adapter closure
    exact ⟨surface, adapter, closure, typed, adapts, closes, transforms, transforms.closure_of_new⟩

end Bake

namespace Bake.Overridden

/-- A standard surface with a parameter under a reserved name and another under the adapter's name for it. -/
def network : Network where
  materialPath := "/M"
  nodes := Dict.ofList [
    ("/M/t", ⟨Surface.standard.nodeType,
      Dict.ofList [("emission", .plain (.bool true)), ("emission_value", .plain (.bool false)),
        ("input_normal", .plain .null)],
      Dict.ofList [("base_color", ⟨"/M/n", "out"⟩)]⟩)]
  terminals := Dict.ofList [("surface", ⟨"/M/t", "out"⟩)]

/-- An adapter with one output. -/
def adapter : ShaderEntry where
  identifier := Surface.standard.adapter
  sourceType := ShaderEntry.shaderType
  family := ""
  role := none
  inputs := []
  outputs := [⟨"diffuseColorOut", "color", none⟩]
  metadata := Dict.empty
  assetPath := none

/-- A closure with two inputs, for one of which the adapter has an output. -/
def closure : ShaderEntry where
  identifier := closureNodeType
  sourceType := ShaderEntry.closureType
  family := ""
  role := none
  inputs := [⟨"diffuseColor", "color", none⟩, ⟨"diffuseGain", "float", none⟩]
  outputs := []
  metadata := Dict.empty
  assetPath := none

/-- The terminal is transformed. The value under the reserved name replaces the one under the adapter's name,
where there is none this stays, and one input of the closure is connected. -/
theorem transform_overrides :
    ∃ transformed, network.transformTerminal ⟨[closure, adapter]⟩ "/M/t" = .ok transformed ∧
      transformed.parameter? "/M/t" "emission" = none ∧
      transformed.parameter? "/M/t" "emission_value" = some (.plain (.bool true)) ∧
      transformed.parameter? "/M/t" "input_normal" = some (.plain .null) ∧
      transformed.input? "/M/t" "base_color" = some ⟨"/M/n", "out"⟩ ∧
      ∀ slot connection, transformed.input? (closureNode "/M/t") slot = some connection ↔
        slot = "diffuseColor" ∧ connection = ⟨"/M/t", "diffuseColorOut"⟩ := by
  obtain ⟨possible, _, done⟩ := transform_allOrNothing ⟨network, ⟨[closure, adapter]⟩, (), {}⟩ "/M/t"
  obtain ⟨transformed, outcome⟩ := possible.2 ⟨.standard, by decide, ⟨adapter, by simp, rfl, rfl⟩,
    ⟨closure, by simp, rfl, rfl⟩⟩
  obtain ⟨_, surface, adapter', closure', typed, adapts, closes, leaves, fresh⟩ := done transformed outcome
  -- The terminal has the type of one kind of surface only.
  obtain rfl : surface = .standard := by
    cases surface with
    | standard => rfl
    | preview => exact absurd typed (by decide)
  obtain rfl : adapter = adapter' := Option.some.inj adapts
  obtain rfl : closure = closure' := Option.some.inj closes
  have emission := leaves.reserved rfl ("emission", "emission_value") (by decide)
  have normal := leaves.reserved rfl ("normal", "input_normal") (by decide)
  refine ⟨transformed, outcome, emission.1, emission.2, normal.2, leaves.inputs "base_color", ?_⟩
  intro slot connection
  rw [(fresh (by decide)).2 slot connection]
  constructor
  · rintro ⟨listed, output, rfl⟩
    rcases List.mem_cons.1 listed with rfl | later
    · exact ⟨rfl, rfl⟩
    -- The adapter has no output for the second input.
    · obtain rfl := List.mem_singleton.1 later
      exact absurd output (by decide)
  · rintro ⟨rfl, rfl⟩
    exact ⟨by decide, by decide, rfl⟩

end Bake.Overridden

end ShadeBake

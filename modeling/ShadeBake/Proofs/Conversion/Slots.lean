import ShadeBake.Proofs.Conversion.Effect

/-! What a transition does to the inputs of the terminal and to the nodes met, whatever the compiler makes. -/

namespace ShadeBake

/-- The adapters' name for an input is its own or one that is kept for a reserved input. -/
theorem adapterName_eq_or_mem (name : String) :
    adapterName name = name ∨ adapterName name ∈ reservedInputs.map (·.2) := by
  cases renamed : renamedInput? name with
  | none => exact .inl (adapterName_of_none renamed)
  -- A reserved name stands in the table with its new one.
  | some other =>
    refine .inr (List.mem_map.2 ⟨(name, other), Dict.mem_of_lookup renamed, ?_⟩)
    simp [adapterName, renamed]

/-- The adapters' names are not renamed again. -/
theorem adapterName_adapterName (name : String) : adapterName (adapterName name) = adapterName name := by
  cases renamed : renamedInput? name with
  | none => rw [adapterName_of_none renamed, adapterName_of_none renamed]
  | some other =>
    have new : adapterName name = other := by simp [adapterName, renamed]
    rw [new]
    -- None of the new names in the table is a reserved one.
    rcases renamedInput?_eq_some_iff.1 renamed with ⟨_, rfl⟩ | ⟨_, rfl⟩ | ⟨_, rfl⟩
    · decide
    · decide
    · decide

namespace Conversion

variable {σ : Type} {compile : Compiler σ} {document : Document} {searchPaths : List String}
  {terminal input : String} {conversion next : Conversion σ} {connection : Connection}

/-- A terminal that is converted itself loses all its inputs. -/
theorem input?_convert_self (conversion : Conversion σ) (input : String) {connection : Connection}
    (entry : ShaderEntry) (registry : Registry) (self : connection.source = terminal) (slot : String) :
    (conversion.convert terminal input connection entry registry).network.input? terminal slot = none := by
  -- The node is stripped after its input was bound.
  simp only [convert, bind, Network.input?_stripNode, if_pos self]

namespace Transition

/-- A transition leaves the inputs of the terminal and converts nothing, as the source is missing, is met
for the first time or has no shader. Or it binds an input that reads a converted node, or it converts the
terminal, which then has no inputs. -/
theorem slots (moves : Transition compile document searchPaths terminal conversion input next) :
    ((∀ slot, next.network.input? terminal slot = conversion.network.input? terminal slot) ∧
      next.summary.converted = conversion.summary.converted ∧
      ∀ connection, conversion.network.input? terminal input = some connection →
        conversion.network.hasNode connection.source = false ∨
          connection.source ∉ Dict.keys conversion.keep ∨
          conversion.shader? connection.source = none) ∨
    (∃ connection entry, conversion.network.input? terminal input = some connection ∧
      connection.source ∈ next.summary.converted ∧
      (∀ slot, next.network.input? terminal slot =
        boundSlot (some entry) input connection slot (conversion.network.input? terminal slot)) ∧
      (entry.hasOutput connection.output = false →
        .missingOutput connection.output connection.source ∈ next.warnings)) ∨
    (terminal ∈ next.summary.converted ∧ ∀ slot, next.network.input? terminal slot = none) := by
  -- Three kinds of visits leave the slots, two bind a shader, and one strips the terminal itself.
  cases moves with
  | unconnected absent =>
    exact .inl ⟨fun _ => rfl, rfl, fun connection connected => by simp [absent] at connected⟩
  | dangling connected missing =>
    refine .inl ⟨fun _ => rfl, rfl, fun connection connected' => .inl ?_⟩
    cases connected.symm.trans connected'
    exact missing
  | unconverted connected present met plain =>
    refine .inl ⟨fun _ => rfl, rfl, fun connection connected' => .inr (.inr ?_)⟩
    cases connected.symm.trans connected'
    exact plain
  | failed connected present new nothing =>
    refine .inl ⟨fun _ => rfl, rfl, fun connection connected' => .inr (.inl ?_)⟩
    cases connected.symm.trans connected'
    exact new
  | @rebound connection entry connected present met shader =>
    have known := Network.mem_nodeNames_of_input? connected
    have converted : connection.source ∈ conversion.summary.converted :=
      mem_converted_of_shader? (by simp [shader])
    exact .inr (.inl ⟨connection, entry, connected, converted,
      fun slot => input?_bind conversion input connection entry slot known,
      fun lacks => mem_warnings_bind.2 (.inr ⟨lacks, rfl⟩)⟩)
  | @converted connection entry generated compiled warnings connected present new shader =>
    have known := Network.mem_nodeNames_of_input? connected
    have listed : connection.source ∈
        (((conversion.meet connection.source).advance
          (compiledShader compile document searchPaths connection.source conversion.compiler).2
          generated compiled warnings).convert terminal input connection entry
            (conversion.registry.insert entry)).summary.converted := by
      simp [convert, bind]
    -- Stripping the node takes the terminal's inputs only if that is the node.
    by_cases self : connection.source = terminal
    · exact .inr (.inr ⟨self ▸ listed, fun slot => input?_convert_self _ input entry _ self slot⟩)
    · exact .inr (.inl ⟨connection, entry, connected, listed,
        fun slot => input?_convert _ input entry (conversion.registry.insert entry) self known slot,
        fun lacks => mem_warnings_bind.2 (.inr ⟨lacks, rfl⟩)⟩)

/-- A terminal that is not converted itself keeps its type and its parameters. -/
theorem own (moves : Transition compile document searchPaths terminal conversion input next)
    (plain : terminal ∉ next.summary.converted) :
    next.network.typeOf terminal = conversion.network.typeOf terminal ∧
      ∀ name, next.network.parameter? terminal name = conversion.network.parameter? terminal name := by
  cases moves with
  | unconnected absent => exact ⟨rfl, fun _ => rfl⟩
  | dangling connected missing => exact ⟨rfl, fun _ => rfl⟩
  | unconverted connected present met none => exact ⟨rfl, fun _ => rfl⟩
  | rebound connected present met shader =>
    exact ⟨Network.typeOf_bindConverted .., fun _ => Network.parameter?_bindConverted ..⟩
  | failed connected present new nothing => exact ⟨rfl, fun _ => rfl⟩
  -- Only the node that is converted is retyped and stripped.
  | @converted connection entry generated compiled warnings connected present new shader =>
    have apart : connection.source ≠ terminal := fun self => plain (by simp [convert, bind, self])
    refine ⟨?_, fun name => parameter?_convert _ input entry _ apart name⟩
    simp only [convert, bind, Network.typeOf_stripNode, Network.typeOf_bindConverted,
      Network.typeOf_setType, if_neg apart, advance, meet]

/-- What was converted stays so, and only a node that was not met before is added. -/
theorem converts (moves : Transition compile document searchPaths terminal conversion input next)
    (node : String) :
    (node ∈ conversion.summary.converted → node ∈ next.summary.converted) ∧
      (node ∈ next.summary.converted →
        node ∈ conversion.summary.converted ∨ node ∉ Dict.keys conversion.keep) := by
  cases moves with
  | unconnected absent => exact ⟨id, .inl⟩
  | dangling connected missing => exact ⟨id, .inl⟩
  | unconverted connected present old plain => exact ⟨id, .inl⟩
  | rebound connected present old shader => exact ⟨id, .inl⟩
  | failed connected present new nothing => exact ⟨id, .inl⟩
  -- The one node that is added was not met before.
  | converted connected present new shader =>
    refine ⟨List.mem_append_left _, fun inside => ?_⟩
    rcases List.mem_append.1 inside with old | now
    · exact .inl old
    · exact .inr (List.mem_singleton.1 now ▸ new)

/-- Warnings stay. -/
theorem warns (moves : Transition compile document searchPaths terminal conversion input next) :
    ∀ warning ∈ conversion.warnings, warning ∈ next.warnings := by
  intro warning given
  -- Each part of the work puts its warnings behind those that there are.
  cases moves with
  | unconnected absent => exact given
  | dangling connected missing => exact List.mem_append_left _ given
  | unconverted connected present old plain => exact given
  | rebound connected present old shader => exact mem_warnings_bind.2 (.inl given)
  | failed connected present new nothing =>
    exact List.mem_append_left _ (List.mem_append_left _ given)
  | converted connected present new shader =>
    exact mem_warnings_bind.2 (.inl (List.mem_append_left _ (List.mem_append_left _ given)))

/-- The nodes met before are the first of those met. -/
theorem firstLevel (moves : Transition compile document searchPaths terminal conversion input next) :
    conversion.summary.firstLevel <+: next.summary.firstLevel := by
  -- A node that is met for the first time is listed last.
  cases moves with
  | unconnected absent => exact List.prefix_refl _
  | dangling connected missing => exact List.prefix_refl _
  | unconverted connected present old plain => exact List.prefix_refl _
  | rebound connected present old shader => exact List.prefix_refl _
  | failed connected present new nothing => exact List.prefix_append _ _
  | converted connected present new shader => exact List.prefix_append _ _

/-- Nodes that were met stay so. -/
theorem keeps (moves : Transition compile document searchPaths terminal conversion input next) :
    ∀ node ∈ Dict.keys conversion.keep, node ∈ Dict.keys next.keep := by
  intro node met
  -- Only a node that is met for the first time is added, and none is taken away.
  cases moves with
  | unconnected absent => exact met
  | dangling connected missing => exact met
  | unconverted connected present old plain => exact met
  | rebound connected present old shader => exact met
  | failed connected present new nothing => exact NameSet.mem_keys_add.2 (.inr met)
  | converted connected present new shader => exact NameSet.mem_keys_add.2 (.inr met)

/-- The source of the input that is done is met, if it exists. -/
theorem meets (moves : Transition compile document searchPaths terminal conversion input next)
    (connected : conversion.network.input? terminal input = some connection)
    (present : conversion.network.hasNode connection.source = true) :
    connection.source ∈ Dict.keys next.keep := by
  cases moves with
  | unconnected absent => simp [absent] at connected
  | dangling connected' missing =>
    cases connected.symm.trans connected'
    simp [missing] at present
  -- A node that was met before stays among those met.
  | unconverted connected' _ met plain =>
    cases connected.symm.trans connected'
    exact met
  | rebound connected' _ met shader =>
    cases connected.symm.trans connected'
    exact met
  -- A node that is met for the first time is added.
  | failed connected' _ new nothing =>
    cases connected.symm.trans connected'
    exact NameSet.mem_keys_add.2 (.inl rfl)
  | converted connected' _ new shader =>
    cases connected.symm.trans connected'
    exact NameSet.mem_keys_add.2 (.inl rfl)

end Transition

/-- What was converted before a run stays so. -/
theorem mem_converted_run (compile : Compiler σ) (document : Document) (searchPaths : List String)
    (terminal : String) {conversion : Conversion σ} (inputs : List String) {node : String}
    (converted : node ∈ conversion.summary.converted) :
    node ∈ (run compile document searchPaths terminal conversion inputs).summary.converted := by
  -- No step takes a node from the list of those that are converted.
  unfold run
  induction inputs generalizing conversion with
  | nil => exact converted
  | cons input rest ih =>
    exact ih (((step_transition compile document searchPaths terminal conversion input).converts node).1
      converted)

/-- A terminal that a run does not convert keeps its type and its parameters. -/
theorem own_run {compile : Compiler σ} {document : Document} {searchPaths : List String}
    {terminal : String} {conversion : Conversion σ} (inputs : List String)
    (plain : terminal ∉ (run compile document searchPaths terminal conversion inputs).summary.converted) :
    (run compile document searchPaths terminal conversion inputs).network.typeOf terminal =
        conversion.network.typeOf terminal ∧
      ∀ name, (run compile document searchPaths terminal conversion inputs).network.parameter? terminal name =
        conversion.network.parameter? terminal name := by
  induction inputs generalizing conversion with
  | nil => exact ⟨rfl, fun _ => rfl⟩
  | cons input rest ih =>
    obtain ⟨type, parameters⟩ := ih plain
    have moves := step_transition compile document searchPaths terminal conversion input
    -- What is not converted in the end is not converted on the way.
    obtain ⟨type', parameters'⟩ := moves.own fun converted =>
      plain (mem_converted_run compile document searchPaths terminal rest converted)
    exact ⟨type.trans type', fun name => (parameters name).trans (parameters' name)⟩

/-- The nodes met before a run are the first of those met. -/
theorem firstLevel_isPrefix_run (compile : Compiler σ) (document : Document) (searchPaths : List String)
    (terminal : String) (conversion : Conversion σ) (inputs : List String) :
    conversion.summary.firstLevel <+:
      (run compile document searchPaths terminal conversion inputs).summary.firstLevel := by
  -- Each step leaves the list or extends it at its end.
  unfold run
  induction inputs generalizing conversion with
  | nil => exact List.prefix_refl _
  | cons input rest ih =>
    exact (step_transition compile document searchPaths terminal conversion input).firstLevel.trans (ih _)

end Conversion

end ShadeBake

import ShadeBake.Proofs.Conversion.Sequence

/-! What doing one input of a terminal changes: the slots that it is bound at, and nothing else of the
terminal. -/

namespace ShadeBake

namespace Conversion

variable {σ : Type}

/-- What a slot of a terminal reads once an input is bound to a shader, if there is one. -/
def boundSlot (shader : Option ShaderEntry) (input : String) (connection : Connection) (slot : String)
    (before : Option Connection) : Option Connection :=
  match shader with
  | none => before
  | some entry =>
    if slot = adapterName input ∧ entry.hasOutput connection.output = true then some connection
    else if slot = input then none
    else before

/-- Slots other than the input and its name for the adapters are left alone. -/
theorem boundSlot_of_ne {shader : Option ShaderEntry} {input slot : String} {connection : Connection}
    {before : Option Connection} (apart : slot ≠ input) (renamed : slot ≠ adapterName input) :
    boundSlot shader input connection slot before = before := by
  -- A connection is put back under its own name or under the adapter's.
  unfold boundSlot
  cases shader with
  | none => rfl
  | some entry => simp [apart, renamed]

/-- What a slot reads afterwards is the bound connection under the adapters' name, or what it read before.
-/
theorem eq_of_boundSlot {shader : Option ShaderEntry} {input slot : String} {connection read : Connection}
    {before : Option Connection} (reads : boundSlot shader input connection slot before = some read) :
    (read = connection ∧ slot = adapterName input ∧ shader ≠ none) ∨
      (before = some read ∧ (slot = input → shader = none)) := by
  unfold boundSlot at reads
  -- Without a shader the slot keeps what it read, and with one it depends on the slot.
  cases shader with
  | none => exact .inr ⟨reads, fun _ => rfl⟩
  | some entry =>
    simp only at reads
    split at reads
    · rename_i here
      simp only [Option.some.injEq] at reads
      exact .inl ⟨reads.symm, here.1, by simp⟩
    · split at reads
      · simp at reads
      · rename_i apart
        exact .inr ⟨reads, fun same => absurd same apart⟩

/-- Doing an input binds it to the shader that its source is converted to, and changes nothing else about
the terminal or about the shaders of other nodes. -/
structure Binds (terminal input : String) (connection : Connection) (conversion next : Conversion σ) :
    Prop where
  inputs : ∀ slot, next.network.input? terminal slot =
    boundSlot (next.shader? connection.source) input connection slot
      (conversion.network.input? terminal slot)
  warned : ∀ entry, next.shader? connection.source = some entry →
    entry.hasOutput connection.output = false →
      .missingOutput connection.output connection.source ∈ next.warnings
  warnings : ∀ warning ∈ conversion.warnings, warning ∈ next.warnings
  shaders : ∀ node, (node = connection.source → conversion.network.hasNode node = true →
    node ∈ Dict.keys conversion.keep) → next.shader? node = conversion.shader? node
  met : conversion.network.hasNode connection.source = true → connection.source ∈ Dict.keys next.keep
  keeps : ∀ node ∈ Dict.keys conversion.keep, node ∈ Dict.keys next.keep
  type : next.network.type? terminal = conversion.network.type? terminal
  parameters : ∀ name, next.network.parameter? terminal name = conversion.network.parameter? terminal name

/-- Doing an input that reads no node with a shader changes nothing about the terminal. -/
theorem Binds.of_none {terminal input : String} {connection : Connection} {conversion next : Conversion σ}
    (plain : next.shader? connection.source = none) (network : next.network = conversion.network)
    (shaders : ∀ node, next.shader? node = conversion.shader? node)
    (warnings : ∀ warning ∈ conversion.warnings, warning ∈ next.warnings)
    (met : conversion.network.hasNode connection.source = true → connection.source ∈ Dict.keys next.keep)
    (keeps : ∀ node ∈ Dict.keys conversion.keep, node ∈ Dict.keys next.keep) :
    Binds terminal input connection conversion next where
  -- Without a shader at the source, binding a slot leaves what it reads.
  inputs slot := by rw [plain, network]; rfl
  warned entry shader := by simp [plain] at shader
  warnings := warnings
  shaders node _ := shaders node
  met := met
  keeps := keeps
  type := by rw [network]
  parameters name := by rw [network]

/-- A terminal bound to a shader reads what its slots are bound to. -/
theorem input?_bind (conversion : Conversion σ) {terminal : String} (input : String)
    (connection : Connection) (entry : ShaderEntry) (slot : String)
    (known : terminal ∈ conversion.network.nodeNames) :
    (conversion.bind terminal input connection entry).network.input? terminal slot =
      boundSlot (some entry) input connection slot (conversion.network.input? terminal slot) := by
  -- The terminal is a record of the network, so that the update at it takes effect.
  simp only [bind, Network.input?_bindConverted _ _ _ _ _ _ _ known, boundSlot, true_and]

/-- Binding warns of an output that the shader lacks, and drops no warning. -/
theorem mem_warnings_bind {conversion : Conversion σ} {terminal input : String} {connection : Connection}
    {entry : ShaderEntry} {warning : Warning} :
    warning ∈ (conversion.bind terminal input connection entry).warnings ↔
      warning ∈ conversion.warnings ∨ (entry.hasOutput connection.output = false ∧
        warning = .missingOutput connection.output connection.source) := by
  simp only [bind, Network.warnings_bindConverted, List.mem_append]
  -- The output that is read decides whether there is anything to warn of.
  cases entry.hasOutput connection.output with
  | true => simp
  | false => simp

/-- Binding an input to the shader that its source was converted to does the input. -/
theorem binds_bind {conversion : Conversion σ} {terminal : String} (input : String) {connection : Connection}
    {entry : ShaderEntry} (known : terminal ∈ conversion.network.nodeNames)
    (met : connection.source ∈ Dict.keys conversion.keep)
    (shader : conversion.shader? connection.source = some entry) :
    Binds terminal input connection conversion (conversion.bind terminal input connection entry) := by
  -- Binding changes no shader, so the source keeps its own.
  have bound : (conversion.bind terminal input connection entry).shader? connection.source = some entry :=
    (shader?_bind ..).trans shader
  refine ⟨fun slot => ?_, fun entry' shader' lacks => ?_, fun warning old => mem_warnings_bind.2 (.inl old),
    fun node _ => shader?_bind .., fun _ => met, fun _ => id, type?_bind .., fun name => ?_⟩
  · rw [bound]
    exact input?_bind conversion input connection entry slot known
  · cases bound.symm.trans shader'
    exact mem_warnings_bind.2 (.inr ⟨lacks, rfl⟩)
  · exact Network.parameter?_bindConverted ..

section convert

variable (conversion : Conversion σ) {terminal : String} (input : String) {connection : Connection}
  (entry : ShaderEntry) (registry : Registry) (apart : connection.source ≠ terminal)
include apart

/-- Where a node other than the terminal is converted, the terminal reads what its slots are bound to. -/
theorem input?_convert (known : terminal ∈ conversion.network.nodeNames) (slot : String) :
    (conversion.convert terminal input connection entry registry).network.input? terminal slot =
      boundSlot (some entry) input connection slot (conversion.network.input? terminal slot) := by
  -- Giving the source its type leaves the terminal a record to bind.
  have retyped : terminal ∈
      (conversion.network.setType connection.source entry.identifier).nodeNames :=
    (Network.mem_nodeNames_setType ..).2 (.inr known)
  simp only [convert, bind, Network.input?_stripNode, if_neg apart,
    Network.input?_bindConverted _ _ _ _ _ _ _ retyped, Network.input?_setType, boundSlot, true_and]

/-- Converting a node other than the terminal leaves the terminal's type. -/
theorem type?_convert :
    (conversion.convert terminal input connection entry registry).network.type? terminal =
      conversion.network.type? terminal := by
  -- The type is set at the source, which is another node, and the rest leaves types alone.
  refine Network.type?_congr ?_ ?_
  · simp only [convert, bind, Network.typeOf_stripNode, Network.typeOf_bindConverted,
      Network.typeOf_setType, if_neg apart]
  · simp only [convert, bind, Network.mem_nodeNames_stripNode, Network.mem_nodeNames_bindConverted,
      Network.mem_nodeNames_setType, apart, false_or]

/-- Converting a node other than the terminal leaves the terminal's parameters. -/
theorem parameter?_convert (name : String) :
    (conversion.convert terminal input connection entry registry).network.parameter? terminal name =
      conversion.network.parameter? terminal name := by
  -- What is stripped of parameters is the source, which is another node.
  simp only [convert, bind, Network.parameter?_stripNode, if_neg apart,
    Network.parameter?_bindConverted, Network.parameter?_setType]

end convert

/-- Converting a node that is met for the first time to a shader that is new to the registry does the input
that reads it. -/
theorem binds_convert {conversion : Conversion σ} {terminal : String} (input : String)
    {connection : Connection} {entry : ShaderEntry} {compiler : σ} {generated compiled : Nat}
    {warnings : List Warning} (known : terminal ∈ conversion.network.nodeNames)
    (apart : connection.source ≠ terminal)
    (first : conversion.network.hasNode connection.source = true ∧
      connection.source ∉ Dict.keys conversion.keep)
    (identified : entry.identifier ≠ "") (free : conversion.registry.find? entry.identifier = none)
    (resolved : ∀ node ∈ conversion.summary.converted, ∃ entry, conversion.shader? node = some entry) :
    Binds terminal input connection conversion
      (((conversion.meet connection.source).advance compiler generated compiled warnings).convert
        terminal input connection entry (conversion.registry.insert entry)) := by
  -- The node is known under its new type, which is the identifier of the shader.
  have bound : (((conversion.meet connection.source).advance compiler generated compiled warnings).convert
      terminal input connection entry (conversion.registry.insert entry)).shader? connection.source =
        some entry :=
    shader?_convert_self _ terminal input identified free
  constructor
  · intro slot
    rw [bound]
    exact input?_convert ((conversion.meet connection.source).advance compiler generated compiled warnings)
      input entry (conversion.registry.insert entry) apart known slot
  · intro entry' shader lacks
    cases bound.symm.trans shader
    exact mem_warnings_bind.2 (.inr ⟨lacks, rfl⟩)
  · exact fun warning old => mem_warnings_bind.2 (.inl (List.mem_append_left _ (List.mem_append_left _ old)))
  · intro node decided
    -- The source is not decided before, so the node is another one.
    have other : node ≠ connection.source := fun same => first.2 (same ▸ decided same (same ▸ first.1))
    exact shader?_convert_of_ne terminal input free other (resolved node)
  · exact fun _ => NameSet.mem_keys_add.2 (.inl rfl)
  · exact fun _ old => NameSet.mem_keys_add.2 (.inr old)
  · exact type?_convert _ input entry _ apart
  · exact fun name => parameter?_convert _ input entry _ apart name

namespace InSequence

variable {compile : Compiler σ} {document : Document} {searchPaths : List String} {origin : Network}
  {terminal input : String} {ahead : List String} {conversion next : Conversion σ} {connection : Connection}

/-- A node without a shader is one that was not converted. -/
theorem shader?_eq_none_iff
    (sequence : InSequence compile document searchPaths origin terminal ahead conversion) {node : String} :
    conversion.shader? node = none ↔ node ∉ conversion.summary.converted := by
  constructor
  · intro nothing converted
    -- In sequence, each converted node is resolved to a shader.
    obtain ⟨_, entry, shader⟩ := sequence.resolved node converted
    simp [nothing] at shader
  · intro plain
    simp [shader?, plain]

/-- A node that was not met has no shader. -/
theorem shader?_of_not_met
    (sequence : InSequence compile document searchPaths origin terminal ahead conversion) {node : String}
    (new : node ∉ Dict.keys conversion.keep) : conversion.shader? node = none :=
  -- A converted node was met, and its upstream gathered.
  sequence.shader?_eq_none_iff.2 fun converted => new (sequence.resolved node converted).1

/-- Every transition on a connected input binds it. -/
theorem binds
    (sequence : InSequence compile document searchPaths origin terminal (connection.source :: ahead)
      conversion)
    (connected : conversion.network.input? terminal input = some connection)
    (apart : connection.source ≠ terminal)
    (moves : Transition compile document searchPaths terminal conversion input next) :
    Binds terminal input connection conversion next := by
  have known := Network.mem_nodeNames_of_input? connected
  cases moves with
  | unconnected absent => simp [absent] at connected
  | dangling connected' missing =>
    cases connected.symm.trans connected'
    -- A node that is missing was not met.
    have new : connection.source ∉ Dict.keys conversion.keep := fun met => by
      have present := (sequence.within.derives.present _).trans (sequence.within.present_of_met met)
      simp [missing] at present
    exact .of_none (sequence.shader?_of_not_met new) rfl (fun _ => rfl)
      (fun _ => List.mem_append_left _) (by simp [missing]) fun _ => id
  | unconverted connected' present met plain =>
    cases connected.symm.trans connected'
    exact .of_none plain rfl (fun _ => rfl) (fun _ => id) (fun _ => met) fun _ => id
  -- A node that was converted before is bound again, and one met now is converted.
  | rebound connected' present met shader =>
    cases connected.symm.trans connected'
    exact binds_bind input known met shader
  | failed connected' present new nothing =>
    cases connected.symm.trans connected'
    exact .of_none (sequence.shader?_of_not_met new) rfl (fun _ => rfl)
      (fun _ old => List.mem_append_left _ (List.mem_append_left _ old))
      (fun _ => NameSet.mem_keys_add.2 (.inl rfl)) fun _ old => NameSet.mem_keys_add.2 (.inr old)
  | converted connected' present new shader =>
    cases connected.symm.trans connected'
    obtain ⟨identified, free, _⟩ := sequence.admits_entry present new shader
    exact binds_convert input known apart ⟨present, new⟩ identified free
      fun node converted => (sequence.resolved node converted).2

end InSequence

end Conversion

end ShadeBake

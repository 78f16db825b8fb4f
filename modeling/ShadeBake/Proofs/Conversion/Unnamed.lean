import ShadeBake.Proofs.Conversion.Outputs
import ShadeBake.Proofs.Conversion.Placement

/-! What becomes of connections that name no output. Where a document is built, such a connection reads the default
output, but no shader that a node is converted to has an output without a name, so that the terminal loses every
such connection to a converted node. -/

namespace ShadeBake

namespace Conversion

variable {σ : Type} {compile : Compiler σ} {document : Document} {searchPaths : List String}
  {registry : Registry} {compiler : σ} {origin : Network} {terminal : String} {conversion : Conversion σ}

/-- No outcome is a shader with an output without a name. -/
theorem hasOutput_empty_of_mem_outcomes {nodes : List String} {node : String} {entry : ShaderEntry}
    (listed : (node, some entry) ∈ outcomes compile document searchPaths nodes compiler) :
    entry.hasOutput "" = false := by
  -- The outputs of an artifact are words of its lines, and no word is empty.
  obtain ⟨shader, made⟩ := exists_entry?_of_mem_outcomes listed
  exact shader.hasOutput_entry_empty made

/-- A shader that is found for a converted node has no output without a name, where none that was registered on
entry has one. -/
theorem KeepsBooks.hasOutput_empty_of_shader?
    (books : KeepsBooks compile document searchPaths registry compiler conversion)
    (named : ∀ entry ∈ registry.entries, entry.hasOutput "" = false) {node : String} {entry : ShaderEntry}
    (shader : conversion.shader? node = some entry) : entry.hasOutput "" = false := by
  -- What is found was registered on entry or since then.
  obtain ⟨type, _, found⟩ := Option.bind_eq_some_iff.1 (find?_of_shader? shader)
  have registered : entry ∈ conversion.registry.entries := List.mem_of_find?_eq_some found
  rw [books.registered] at registered
  rcases Registry.mem_entries_of_insertAll registered with old | new
  · exact named entry old
  · obtain ⟨⟨node, outcome⟩, listed, same⟩ := List.mem_filterMap.1 new
    obtain rfl : outcome = some entry := same
    exact hasOutput_empty_of_mem_outcomes listed

/-- A run over inputs exposes them to connections that name an output only. -/
theorem exposedTo_run (named : ∀ entry ∈ registry.entries, entry.hasOutput "" = false) (inputs : List String)
    (records : KeepsRecords compile document searchPaths registry compiler origin terminal conversion)
    (exposed : ExposedTo (·.output ≠ "") terminal inputs conversion) :
    ExposedTo (·.output ≠ "") terminal []
      (Conversion.run compile document searchPaths terminal conversion inputs) := by
  -- The induction is on the inputs ahead, and the books say which shaders each of them can be bound to.
  induction inputs generalizing conversion with
  | nil => exact exposed
  | cons input rest ih =>
    have moves := step_transition compile document searchPaths terminal conversion input
    refine ih (records.transition moves) (exposed.transition records moves (fun _ outputs => outputs) ?_)
    -- An output that a shader has is not the one without a name.
    intro connection entry output origin unnamed
    rw [unnamed] at output
    have lacks : entry.hasOutput "" = false := by
      rcases origin with shader | listed
      · exact records.hasOutput_empty_of_shader? named shader
      · exact hasOutput_empty_of_mem_outcomes listed
    simp [lacks] at output

end Conversion

/-- What becomes of an input of a terminal whose connection names no output, where the terminal does not read itself,
none of its inputs has a name that the adapters reserve, and no registered entry has an output without a name. If the
source is converted, the terminal reads it neither at the input nor under the adapters' name for that, and there is a
warning that the output is missing. If the source is not converted, the input keeps its connection. -/
theorem Network.convertInputs_unnamed {σ : Type} (compile : Compiler σ) (document : Document)
    (searchPaths : List String) (registry : Registry) (compiler : σ) (network : Network) (terminal : String)
    (unread : ∀ input connection, network.input? terminal input = some connection →
      connection.source ≠ terminal)
    (clear : network.Clear terminal) (named : ∀ entry ∈ registry.entries, entry.hasOutput "" = false)
    {input : String} {connection : Connection} (connected : network.input? terminal input = some connection)
    (unnamed : connection.output = "") :
    let after := network.convertInputs compile document searchPaths registry compiler terminal
    (connection.source ∈ after.summary.converted →
      after.network.input? terminal input = none ∧ after.network.input? terminal (adapterName input) = none ∧
        .missingOutput "" connection.source ∈ after.warnings) ∧
    (connection.source ∉ after.summary.converted → after.network.input? terminal input = some connection) := by
  intro after
  have starts := Conversion.accounts_start compile document searchPaths registry compiler network terminal
  have inputs := fun input inside => Network.mem_inputNames_iff.1 (inside : input ∈ network.inputNames terminal)
  have placed := Conversion.placedUpTo_run clear unread _ (network.inputNames_nodup terminal) inputs starts
    (Conversion.placedUpTo_start registry compiler clear)
  have exposed := Conversion.exposedTo_run named (network.inputNames terminal) starts.toKeepsRecords
    (Conversion.exposedTo_start _ registry compiler network terminal)
  generalize made : Conversion.run compile document searchPaths terminal
    { network, registry, compiler } (network.inputNames terminal) = conversion at placed exposed
  -- Pruning comes after the run, and leaves the terminal, the summary of what was converted and the warnings.
  have final : after = conversion.finish terminal := made ▸ rfl
  clear_value after
  subst final
  have converted : (conversion.finish terminal).summary.converted = conversion.summary.converted := rfl
  have warnings : (conversion.finish terminal).warnings = conversion.warnings := rfl
  rw [converted, warnings, conversion.input?_finish, conversion.input?_finish]
  obtain ⟨place, _⟩ := placed.placed input connection connected List.not_mem_nil
  rcases place with ⟨plain, kept⟩ | ⟨taken, moved, bound | ⟨dropped, warned⟩⟩
  · exact ⟨fun taken => absurd taken plain, fun _ => kept⟩
  -- The input cannot be bound, as the connection names no output.
  · exact absurd unnamed (exposed.outputs _ connection List.not_mem_nil bound taken)
  · refine ⟨fun _ => ⟨?_, dropped, unnamed ▸ warned⟩, fun plain => absurd taken plain⟩
    -- An input without a name of its own for the adapters has the one slot that was emptied.
    by_cases renamed : adapterName input = input
    · exact renamed ▸ dropped
    · exact moved renamed

namespace Conversion.Unnamed

/-- A surface that reads a node at two inputs, at the first one without naming an output. -/
def network : Network where
  materialPath := "/M"
  nodes := Dict.ofList [
    ("/M/a", ⟨"add", Dict.empty, Dict.empty⟩),
    ("/M/t", ⟨"surface", Dict.empty, Dict.ofList [("base", ⟨"/M/a", ""⟩), ("coat", ⟨"/M/a", "out"⟩)]⟩)]
  terminals := Dict.empty

/-- The conversion at its start. -/
def start : Conversion Unit := { network, registry := Registry.empty, compiler := () }

/-- The first input has its source compiled. -/
theorem step_base :
    step Emissive.compile Emissive.document [] "/M/t" start "base" =
      compileNode Emissive.compile Emissive.document [] (start.meet "/M/a") "/M/t" "base" ⟨"/M/a", ""⟩ := by
  -- The source of the first input is new and present, so it is compiled.
  have connected : start.network.input? "/M/t" "base" = some ⟨"/M/a", ""⟩ := by decide
  exact step_of_new _ _ _ connected (by decide) List.not_mem_nil

/-- The node is converted to a shader that has the output with the default name, which the second input reads. -/
theorem outputs :
    let after := network.convertInputs Emissive.compile Emissive.document [] Registry.empty () "/M/t"
    (after.summary.converted, after.network.input? "/M/t" "coat",
      ((after.network.type? "/M/a").bind after.registry.find?).map (·.hasOutput "out")) =
        (["/M/a"], some ⟨"/M/a", "out"⟩, some true) := by
  -- The first compilation is known, and what follows is evaluated.
  have inputs : network.inputNames "/M/t" = ["base", "coat"] := by decide
  have begins : ({ network, registry := Registry.empty, compiler := () } : Conversion Unit) = start := rfl
  simp only [Network.convertInputs, inputs, run, List.foldl_cons, begins, step_base,
    Emissive.compileNode_found]
  cbv

/-- Of the two inputs that read the converted node, the first alone is disconnected. -/
theorem drops_base :
    (∀ input connection, network.input? "/M/t" input = some connection → connection.source ≠ "/M/t") ∧
    network.Clear "/M/t" ∧ network.input? "/M/t" "base" = some ⟨"/M/a", ""⟩ ∧
    let after := network.convertInputs Emissive.compile Emissive.document [] Registry.empty () "/M/t"
    after.summary.converted = ["/M/a"] ∧
    ((after.network.type? "/M/a").bind after.registry.find?).map (·.hasOutput "out") = some true ∧
    after.network.input? "/M/t" "coat" = some ⟨"/M/a", "out"⟩ ∧
    after.network.input? "/M/t" "base" = none ∧ .missingOutput "" "/M/a" ∈ after.warnings := by
  -- The run converts the node, and the general statement then drops the connection without a name.
  have unread : ∀ input connection, network.input? "/M/t" input = some connection →
      connection.source ≠ "/M/t" := Network.source_ne_of_inputs (by decide)
  have clear : network.Clear "/M/t" := by decide
  have connected : network.input? "/M/t" "base" = some ⟨"/M/a", ""⟩ := by decide
  refine ⟨unread, clear, connected, ?_⟩
  intro after
  -- What was evaluated says that the node is converted and what its other reader got.
  obtain ⟨converted, rest⟩ := Prod.mk.inj outputs
  obtain ⟨coat, output⟩ := Prod.mk.inj rest
  obtain ⟨dropped, _⟩ := Network.convertInputs_unnamed Emissive.compile Emissive.document [] Registry.empty ()
    network "/M/t" unread clear (fun _ registered => absurd registered List.not_mem_nil) connected rfl
  have taken : "/M/a" ∈ after.summary.converted := by
    rw [converted]
    exact List.mem_cons_self
  obtain ⟨nothing, _, warned⟩ := dropped taken
  exact ⟨converted, output, coat, nothing, warned⟩

end Conversion.Unnamed

end ShadeBake

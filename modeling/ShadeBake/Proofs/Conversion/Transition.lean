import ShadeBake.Proofs.Network.Update
import ShadeBake.Proofs.Registry.Register

/-! All that one step of a conversion can do, said once: six transitions with the guards under which they
run. -/

namespace ShadeBake

/-- The entry for a compiled shader, if it can be read and named. -/
def CompiledShader.entry? (shader : CompiledShader) : Option ShaderEntry :=
  (Registry.entryOf shader.path shader.content Dict.empty ShaderEntry.definitionType
    ShaderEntry.shaderType).toOption

namespace CompiledShader

variable {shader : CompiledShader} {entry : ShaderEntry}

/-- The entry for a compiled shader is the one that is made of its path and content. -/
theorem entryOf_eq_ok (made : shader.entry? = some entry) :
    Registry.entryOf shader.path shader.content Dict.empty ShaderEntry.definitionType ShaderEntry.shaderType =
      .ok entry := by
  -- An entry that was made is the result of reading the artifact, which therefore succeeded.
  unfold entry? at made
  cases result : Registry.entryOf shader.path shader.content Dict.empty ShaderEntry.definitionType
      ShaderEntry.shaderType with
  | error cause => simp [result, Except.toOption] at made
  | ok entry' =>
    simp only [result, Except.toOption, Option.some.injEq] at made
    rw [made]

/-- The entry for a compiled shader is identified by the stem of its path. -/
theorem stem?_path (made : shader.entry? = some entry) : Path.stem? shader.path = some entry.identifier :=
  -- An entry takes its identifier from the path it was registered with.
  Registry.stem?_of_entryOf (entryOf_eq_ok made)

/-- The entry for a compiled shader is one of a shader. -/
theorem sourceType_entry (made : shader.entry? = some entry) : entry.sourceType = ShaderEntry.shaderType :=
  -- All registered entries are of the shader type.
  Registry.sourceType_of_entryOf (entryOf_eq_ok made)

/-- The entry for a compiled shader has no output without a name. -/
theorem hasOutput_entry_empty (made : shader.entry? = some entry) : entry.hasOutput "" = false :=
  -- The outputs of an entry come from an artifact, which has no output without a name.
  Registry.hasOutput_empty_of_entryOf (entryOf_eq_ok made)

end CompiledShader

namespace Conversion

variable {σ : Type}

/-- The shader that the source for a node is compiled to, if there is one, and the compiler's next state. -/
def compiledShader (compile : Compiler σ) (document : Document) (searchPaths : List String) (node : String)
    (compiler : σ) : Option CompiledShader × σ :=
  match Shader.generate document searchPaths (shaderNameFor node) (NodePath.leaf node)
      (NodePath.parent node) with
  -- Without a source the compiler is not called.
  | .error _ => (none, compiler)
  | .ok source =>
    let (compilation, next) := compile (shaderNameFor node) source compiler
    (compilation.shader, next)

/-- The entry of the shader that a node was converted to. -/
def shader? (conversion : Conversion σ) (node : String) : Option ShaderEntry :=
  if node ∈ conversion.summary.converted then
    (conversion.network.type? node).bind conversion.registry.find?
  else none

/-- A node with a shader was converted. -/
theorem mem_converted_of_shader? {conversion : Conversion σ} {node : String}
    (shader : conversion.shader? node ≠ none) : node ∈ conversion.summary.converted := by
  -- Only converted nodes have a shader.
  refine Classical.byContradiction fun plain => shader ?_
  simp [shader?, plain]

/-- The conversion after work on a node that left the network and the registry alone. -/
def advance (conversion : Conversion σ) (compiler : σ) (generated compiled : Nat)
    (warnings : List Warning) : Conversion σ :=
  { conversion with
    compiler
    summary := { conversion.summary with generated, compiled }
    warnings := conversion.warnings ++ warnings }

/-- A node is compiled to at most one shader, and converted exactly if there is an entry for that. -/
theorem compileNode_eq (compile : Compiler σ) (document : Document) (searchPaths : List String)
    (conversion : Conversion σ) (terminal input : String) (connection : Connection) :
    ∃ generated compiled warnings,
      let outcome := compiledShader compile document searchPaths connection.source conversion.compiler
      let advanced := conversion.advance outcome.2 generated compiled warnings
      compileNode compile document searchPaths conversion terminal input connection =
        match outcome.1.bind CompiledShader.entry? with
        | none => advanced
        | some entry =>
          advanced.convert terminal input connection entry (conversion.registry.insert entry) := by
  -- The cases are the ways in which the work on a node can end.
  unfold compileNode compiledShader
  cases generated : Shader.generate document searchPaths (shaderNameFor connection.source)
      (NodePath.leaf connection.source) (NodePath.parent connection.source) with
  | error warning =>
    refine ⟨conversion.summary.generated, conversion.summary.compiled, [warning], ?_⟩
    simp [generated, warn, advance]
  | ok source =>
    cases answer : compile (shaderNameFor connection.source) source conversion.compiler with
    | mk compilation next =>
      cases artifact : compilation.shader with
      | none =>
        refine ⟨conversion.summary.generated + 1, conversion.summary.compiled,
          compilation.warnings, ?_⟩
        simp [generated, answer, artifact, install, warn, advance]
      | some shader =>
        cases entry : Registry.entryOf shader.path shader.content Dict.empty
            ShaderEntry.definitionType ShaderEntry.shaderType with
        | error cause =>
          refine ⟨conversion.summary.generated + 1, conversion.summary.compiled + 1,
            compilation.warnings ++ [.notRegistered connection.source cause], ?_⟩
          -- A compiled artifact that cannot be registered is counted, and leaves a warning of its own.
          simp [generated, answer, artifact, install, warn, advance, CompiledShader.entry?, entry,
            Registry.register, Except.map, Except.toOption]
        | ok entry' =>
          refine ⟨conversion.summary.generated + 1, conversion.summary.compiled + 1,
            compilation.warnings, ?_⟩
          simp [generated, answer, artifact, install, warn, advance, CompiledShader.entry?, entry,
            Registry.register, Except.map, Except.toOption]

/-- The ways in which one input of the terminal is done. -/
inductive Transition (compile : Compiler σ) (document : Document) (searchPaths : List String)
    (terminal : String) (conversion : Conversion σ) (input : String) : Conversion σ → Prop
  /-- The input is not connected any more. -/
  | unconnected (absent : conversion.network.input? terminal input = none) :
    Transition compile document searchPaths terminal conversion input conversion
  /-- The input reads a node that does not exist. -/
  | dangling {connection : Connection}
    (connected : conversion.network.input? terminal input = some connection)
    (missing : conversion.network.hasNode connection.source = false) :
    Transition compile document searchPaths terminal conversion input
      (conversion.warn [.unknownNode connection.source])
  /-- The input reads a node met before that was not converted. -/
  | unconverted {connection : Connection}
    (connected : conversion.network.input? terminal input = some connection)
    (present : conversion.network.hasNode connection.source = true)
    (met : connection.source ∈ Dict.keys conversion.keep)
    (plain : conversion.shader? connection.source = none) :
    Transition compile document searchPaths terminal conversion input conversion
  /-- The input reads a node met before that was converted. -/
  | rebound {connection : Connection} {entry : ShaderEntry}
    (connected : conversion.network.input? terminal input = some connection)
    (present : conversion.network.hasNode connection.source = true)
    (met : connection.source ∈ Dict.keys conversion.keep)
    (shader : conversion.shader? connection.source = some entry) :
    Transition compile document searchPaths terminal conversion input
      (conversion.bind terminal input connection entry)
  /-- The input is the first to read a node, and there is no entry for it. -/
  | failed {connection : Connection} {generated compiled : Nat} {warnings : List Warning}
    (connected : conversion.network.input? terminal input = some connection)
    (present : conversion.network.hasNode connection.source = true)
    (new : connection.source ∉ Dict.keys conversion.keep)
    (nothing : (compiledShader compile document searchPaths connection.source
      conversion.compiler).1.bind CompiledShader.entry? = none) :
    Transition compile document searchPaths terminal conversion input
      ((conversion.meet connection.source).advance
        (compiledShader compile document searchPaths connection.source conversion.compiler).2
        generated compiled warnings)
  /-- The input is the first to read a node, which is converted to a registered shader. -/
  | converted {connection : Connection} {entry : ShaderEntry} {generated compiled : Nat}
    {warnings : List Warning}
    (connected : conversion.network.input? terminal input = some connection)
    (present : conversion.network.hasNode connection.source = true)
    (new : connection.source ∉ Dict.keys conversion.keep)
    (shader : (compiledShader compile document searchPaths connection.source
      conversion.compiler).1.bind CompiledShader.entry? = some entry) :
    Transition compile document searchPaths terminal conversion input
      (((conversion.meet connection.source).advance
        (compiledShader compile document searchPaths connection.source conversion.compiler).2
        generated compiled warnings).convert terminal input connection entry
          (conversion.registry.insert entry))

/-- A step over an input whose source exists and was not met before compiles the source. -/
theorem step_of_new (compile : Compiler σ) (document : Document) (searchPaths : List String)
    {terminal input : String} {conversion : Conversion σ} {connection : Connection}
    (connected : conversion.network.input? terminal input = some connection)
    (present : conversion.network.hasNode connection.source = true)
    (new : connection.source ∉ Dict.keys conversion.keep) :
    step compile document searchPaths terminal conversion input =
      compileNode compile document searchPaths (conversion.meet connection.source) terminal input
        connection := by
  -- A node that is not kept has not been met, and the last test is for its presence.
  have fresh : conversion.keep.contains connection.source = false := by
    simpa [← Dict.contains_iff] using new
  simp only [step, connected, fresh, present, if_true, Bool.false_eq_true, if_false]

/-- A step is one of the transitions. -/
theorem step_transition (compile : Compiler σ) (document : Document) (searchPaths : List String)
    (terminal : String) (conversion : Conversion σ) (input : String) :
    Transition compile document searchPaths terminal conversion input
      (step compile document searchPaths terminal conversion input) := by
  cases connected : conversion.network.input? terminal input with
  | none =>
    simp only [step, connected]
    exact .unconnected connected
  | some connection =>
    cases present : conversion.network.hasNode connection.source with
    | false => simpa [step, connected, present] using Transition.dangling connected present
    | true =>
      by_cases met : connection.source ∈ Dict.keys conversion.keep
      · have kept : conversion.keep.contains connection.source = true := Dict.contains_iff.2 met
        simp only [step, connected, kept, present, if_true]
        -- A revisit looks the shader up by the type that its conversion gave the node.
        have revisited : conversion.revisit terminal input connection =
            (conversion.shader? connection.source).elim conversion
              (conversion.bind terminal input connection) := by
          unfold revisit shader?
          by_cases done : connection.source ∈ conversion.summary.converted
          · cases (conversion.network.type? connection.source).bind conversion.registry.find? with
            | none => simp only [done, if_true, Option.elim_none]
            | some entry => simp only [done, if_true, Option.elim_some]
          · simp only [done, if_false, Option.elim_none]
        rw [revisited]
        cases shader : conversion.shader? connection.source with
        | none => exact .unconverted connected present met shader
        | some entry => exact .rebound connected present met shader
      · rw [step_of_new compile document searchPaths connected present met]
        obtain ⟨generated, compiled, warnings, result⟩ := compileNode_eq compile document searchPaths
          (conversion.meet connection.source) terminal input connection
        -- Meeting the node changes neither the compiler nor the registry.
        have unmoved : (conversion.meet connection.source).compiler = conversion.compiler := rfl
        have unregistered : (conversion.meet connection.source).registry = conversion.registry := rfl
        simp only [unmoved, unregistered] at result
        rw [result]
        cases shader : (compiledShader compile document searchPaths connection.source
            conversion.compiler).1.bind CompiledShader.entry? with
        | none => exact .failed connected present met shader
        | some entry => exact .converted connected present met shader

end Conversion

end ShadeBake

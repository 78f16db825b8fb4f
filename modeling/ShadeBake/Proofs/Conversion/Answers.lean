import ShadeBake.Proofs.Conversion.Books

/-! Compilers whose answers depend on the request alone: what a node is compiled to does not depend on when
it is met. -/

namespace ShadeBake

/-- A compiler distinguishes requests when what it answers does not depend on its state, and the shaders that
it answers distinct requests with have names of their own, none of which is registered. -/
structure Compiler.Distinguishes {σ : Type} (compile : Compiler σ) (registry : Registry) : Prop where
  steady : ∀ name source state state', (compile name source state).1 = (compile name source state').1
  apart : ∀ {name source name' source' state state' shader shader' stem},
    (compile name source state).1.shader = some shader →
    (compile name' source' state').1.shader = some shader' →
    Path.stem? shader.path = some stem → Path.stem? shader'.path = some stem →
      name = name' ∧ source = source'
  free : ∀ {name source state shader stem}, (compile name source state).1.shader = some shader →
    Path.stem? shader.path = some stem → registry.find? stem = none

namespace Conversion

variable {σ : Type}

section answers

variable (compile : Compiler σ) (document : Document) (searchPaths : List String) (compiler : σ)

/-- The entry of the shader that a node is compiled to at the start, if there is one. -/
def shaderOf (node : String) : Option ShaderEntry :=
  (compiledShader compile document searchPaths node compiler).1.bind CompiledShader.entry?

section requests

variable {compile document searchPaths compiler}

/-- A node with a shader has a source, and the shader is what that is compiled to. -/
theorem request_of_shaderOf {node : String} {entry : ShaderEntry}
    (shader : shaderOf compile document searchPaths compiler node = some entry) :
    ∃ source artifact, (compile (shaderNameFor node) source compiler).1.shader = some artifact ∧
      artifact.entry? = some entry := by
  -- A shader was compiled from a source that was generated, and its entry was made from the artifact.
  unfold shaderOf compiledShader at shader
  cases generated : Shader.generate document searchPaths (shaderNameFor node) (NodePath.leaf node)
      (NodePath.parent node) with
  | error warning => simp [generated] at shader
  | ok source =>
    rw [generated] at shader
    obtain ⟨artifact, answered, made⟩ := Option.bind_eq_some_iff.1 shader
    exact ⟨source, artifact, answered, made⟩

end requests

variable {compile} {registry : Registry} (distinguishes : compile.Distinguishes registry)
include distinguishes

/-- What a node is compiled to does not depend on the state of the compiler. -/
theorem entry?_compiledShader (node : String) (state : σ) :
    (compiledShader compile document searchPaths node state).1.bind CompiledShader.entry? =
      shaderOf compile document searchPaths compiler node := by
  unfold shaderOf compiledShader
  -- Without a source there is no shader, and else there is one answer to the one request.
  cases Shader.generate document searchPaths (shaderNameFor node) (NodePath.leaf node)
      (NodePath.parent node) with
  | error warning => rfl
  | ok source =>
    simp only
    rw [distinguishes.steady (shaderNameFor node) source state compiler]

/-- The outcome of each node is its own, whatever was compiled before. -/
theorem outcomes_eq_map (nodes : List String) (state : σ) :
    outcomes compile document searchPaths nodes state =
      nodes.map fun node => (node, shaderOf compile document searchPaths compiler node) := by
  -- A compiler that distinguishes answers alike in all states, so the state that is passed on plays no part.
  induction nodes generalizing state with
  | nil => rfl
  | cons node rest ih =>
    simp only [outcomes, List.map_cons]
    rw [ih, entry?_compiledShader document searchPaths compiler distinguishes node state]

variable {document searchPaths compiler}

/-- No shader of a node is registered from the start. -/
theorem find?_shaderOf {node : String} {entry : ShaderEntry}
    (shader : shaderOf compile document searchPaths compiler node = some entry) :
    registry.find? entry.identifier = none := by
  -- The identifier is the name of the artifact's file, which no registered entry has.
  obtain ⟨source, artifact, answered, made⟩ := request_of_shaderOf shader
  exact distinguishes.free answered (CompiledShader.stem?_path made)

/-- Nodes whose shaders have one identifier are compiled to the same shader, as they make one request. -/
theorem shaderOf_inj {node other : String} {entry entry' : ShaderEntry}
    (shader : shaderOf compile document searchPaths compiler node = some entry)
    (shader' : shaderOf compile document searchPaths compiler other = some entry')
    (same : entry.identifier = entry'.identifier) : entry = entry' := by
  obtain ⟨source, artifact, answered, made⟩ := request_of_shaderOf shader
  obtain ⟨source', artifact', answered', made'⟩ := request_of_shaderOf shader'
  obtain ⟨name, text⟩ := distinguishes.apart answered answered' (CompiledShader.stem?_path made)
    (same ▸ CompiledShader.stem?_path made')
  -- One request has one answer, which has one entry.
  rw [name, text] at answered
  cases answered.symm.trans answered'
  exact Option.some.inj (made.symm.trans made')

end answers

namespace KeepsRecords

variable {compile : Compiler σ} {document : Document} {searchPaths : List String} {registry : Registry}
  {compiler : σ} {origin : Network} {terminal : String} {conversion : Conversion σ}

variable (distinguishes : compile.Distinguishes registry)
  (records : KeepsRecords compile document searchPaths registry compiler origin terminal conversion)

include distinguishes records

/-- A node was converted exactly if it was met and has a shader. -/
theorem mem_converted_iff {node : String} :
    node ∈ conversion.summary.converted ↔ node ∈ conversion.summary.firstLevel ∧
      shaderOf compile document searchPaths compiler node ≠ none := by
  -- The records list the successes, and an outcome is a matter of the node alone.
  rw [records.converted, mem_successes_iff,
    outcomes_eq_map document searchPaths compiler distinguishes, Option.ne_none_iff_exists']
  simp

/-- A node that was met and has a shader is left with the type of that alone. -/
theorem get?_of_shaderOf {node : String} {entry : ShaderEntry}
    (met : node ∈ conversion.summary.firstLevel)
    (shader : shaderOf compile document searchPaths compiler node = some entry) :
    conversion.network.nodes.get? node = some ⟨entry.identifier, Dict.empty, Dict.empty⟩ := by
  -- The outcome of the node is that of its shader, and the records say what a success left of it.
  refine records.stripped node entry ?_
  rw [outcomes_eq_map document searchPaths compiler distinguishes]
  exact List.mem_map.2 ⟨node, met, by rw [shader]⟩

/-- A node that was met is found to have its own shader. -/
theorem shader?_eq_shaderOf {node : String} (met : node ∈ conversion.summary.firstLevel) :
    conversion.shader? node = shaderOf compile document searchPaths compiler node := by
  cases shader : shaderOf compile document searchPaths compiler node with
  | none =>
    -- A node without a shader is not converted, and so it has none in the run either.
    refine Classical.byContradiction fun found => ?_
    exact ((mem_converted_iff distinguishes records).1 (mem_converted_of_shader? found)).2 shader
  | some entry =>
    have converted := (mem_converted_iff distinguishes records).2 ⟨met, by simp [shader]⟩
    have typed : conversion.network.type? node = some entry.identifier := by
      simp [Network.type?, get?_of_shaderOf distinguishes records met shader]
    rw [Conversion.shader?, if_pos converted, typed, Option.bind_some, records.registered,
      outcomes_eq_map document searchPaths compiler distinguishes]
    -- All shaders of one identifier are the same, so it does not matter which was registered last.
    refine Registry.find?_insertAll_of_agree ?_ (find?_shaderOf distinguishes shader) ?_
    · exact mem_entries (List.mem_map.2 ⟨node, met, by rw [shader]⟩)
    · intro other inside named
      obtain ⟨⟨owner, _⟩, listed, rfl⟩ := List.mem_filterMap.1 inside
      obtain ⟨_, _, same⟩ := List.mem_map.1 listed
      simp only [Prod.mk.injEq] at same
      exact shaderOf_inj distinguishes same.2 shader named

end KeepsRecords

end Conversion

end ShadeBake

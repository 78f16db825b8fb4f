import Mathlib
import ShadeBake.Proofs.Conversion.Effect
import ShadeBake.Proofs.Conversion.Survival
import ShadeBake.Proofs.Success

/-! Where a conversion leaves the connections of its terminal: what reads a converted node is bound to the
node's shader, and all else stays. -/

namespace ShadeBake

namespace Conversion

variable {σ : Type}

/-- An input of a terminal is settled: it reads what it read if its source has no shader. If the source
has one, the input is bound to it under the adapters' name, or not at all where the shader lacks the
output. -/
def Settled (conversion : Conversion σ) (terminal input : String) (connection : Connection) : Prop :=
  match conversion.shader? connection.source with
  | none => conversion.network.input? terminal input = some connection
  | some entry =>
    if entry.hasOutput connection.output = true then
      conversion.network.input? terminal (adapterName input) = some connection ∧
        (adapterName input ≠ input → conversion.network.input? terminal input = none)
    else
      conversion.network.input? terminal input = none ∧
        conversion.network.input? terminal (adapterName input) = none ∧
        .missingOutput connection.output connection.source ∈ conversion.warnings

/-- The shader of a node is registered under the node's type. -/
theorem find?_of_shader? {conversion : Conversion σ} {node : String} {entry : ShaderEntry}
    (shader : conversion.shader? node = some entry) :
    (conversion.network.type? node).bind conversion.registry.find? = some entry := by
  unfold shader? at shader
  -- Only converted nodes have shaders.
  split at shader
  · exact shader
  · simp at shader

/-- A settled input whose source was not converted reads what it read. -/
theorem Settled.of_unconverted {conversion : Conversion σ} {terminal input : String} {connection : Connection}
    (settled : conversion.Settled terminal input connection)
    (plain : connection.source ∉ conversion.summary.converted) :
    conversion.network.input? terminal input = some connection := by
  -- Without a conversion there is no shader that the connection could go to.
  have nothing : conversion.shader? connection.source = none := by simp [shader?, plain]
  unfold Settled at settled
  rwa [nothing] at settled

/-- A settled input whose source has a shader is bound to it if the shader has the output, and else
unbound. -/
theorem Settled.of_shader {conversion : Conversion σ} {terminal input : String} {connection : Connection}
    {entry : ShaderEntry} (settled : conversion.Settled terminal input connection)
    (shader : conversion.shader? connection.source = some entry) :
    (entry.hasOutput connection.output = true →
      conversion.network.input? terminal (adapterName input) = some connection ∧
      (renamedInput? input ≠ none → conversion.network.input? terminal input = none)) ∧
    (entry.hasOutput connection.output = false →
      conversion.network.input? terminal input = none ∧
      conversion.network.input? terminal (adapterName input) = none ∧
      .missingOutput connection.output connection.source ∈ conversion.warnings) := by
  unfold Settled at settled
  rw [shader] at settled
  -- The output that the connection reads decides whether the input stays connected.
  cases output : entry.hasOutput connection.output with
  | true =>
    simp only [output, if_true] at settled
    exact ⟨fun _ => ⟨settled.1, fun reserved => settled.2 (adapterName_ne reserved)⟩, by simp⟩
  | false =>
    simp only [output, Bool.false_eq_true, if_false] at settled
    exact ⟨by simp, fun _ => settled⟩

/-- A terminal is rewired up to the inputs ahead: these read what they read on entry, all others are
settled, and no slot reads anything else. -/
structure Rewired (origin : Network) (terminal : String) (ahead : List String)
    (conversion : Conversion σ) : Prop where
  pending : ∀ input ∈ ahead, conversion.network.input? terminal input = origin.input? terminal input
  settled : ∀ input connection, origin.input? terminal input = some connection → input ∉ ahead →
    conversion.Settled terminal input connection ∧
      (origin.hasNode connection.source = true → connection.source ∈ Dict.keys conversion.keep)
  only : ∀ slot connection, conversion.network.input? terminal slot = some connection →
    ∃ input, origin.input? terminal input = some connection ∧
      ((slot = input ∧ (input ∈ ahead ∨ connection.source ∉ conversion.summary.converted)) ∨
        (slot = adapterName input ∧ input ∉ ahead ∧ connection.source ∈ conversion.summary.converted))
  type : conversion.network.type? terminal = origin.type? terminal
  parameters : ∀ name, conversion.network.parameter? terminal name = origin.parameter? terminal name

namespace Rewired

variable {compile : Compiler σ} {document : Document} {searchPaths : List String} {origin : Network}
  {terminal input : String} {sources sources' ahead : List String} {conversion next : Conversion σ}
  {connection : Connection}

/-- The input that is done is settled. -/
theorem settled_self (clear : origin.Clear terminal)
    (rewired : Rewired origin terminal (input :: ahead) conversion)
    (connected : origin.input? terminal input = some connection)
    (binds : Binds terminal input connection conversion next) :
    next.Settled terminal input connection := by
  have before := (rewired.pending input List.mem_cons_self).trans connected
  have own := binds.inputs input
  have renamed := binds.inputs (adapterName input)
  unfold Settled
  -- Without a shader the input keeps what it read on entry; else it is bound or unbound.
  cases shader : next.shader? connection.source with
  | none =>
    rw [own, shader]
    exact before
  | some entry =>
    simp only [shader, boundSlot] at own renamed
    cases output : entry.hasOutput connection.output with
    | true =>
      simp only [output, if_true, and_true] at own renamed ⊢
      exact ⟨renamed, fun apart => by rw [own, if_neg (Ne.symm apart)]⟩
    | false =>
      simp only [output, Bool.false_eq_true, and_false, if_false, if_true] at own renamed ⊢
      refine ⟨own, ?_, binds.warned entry shader output⟩
      rw [renamed]
      split
      · rfl
      -- Nothing read the adapters' name: no input has it, and no other one is bound under it.
      · rename_i apart
        cases reads : conversion.network.input? terminal (adapterName input) with
        | none => rfl
        | some read =>
          have reserved : renamedInput? input ≠ none := fun free => apart (adapterName_of_none free)
          obtain ⟨other, original, ⟨same, _⟩ | ⟨same, done, _⟩⟩ := rewired.only _ _ reads
          · exact absurd same (clear.adapterName_ne original reserved)
          · have different : other ≠ input := fun equal => done (equal ▸ List.mem_cons_self)
            exact absurd same (clear.slots_apart connected original different).2.2.symm

/-- What was settled before stays settled. -/
theorem settled_of_binds (clear : origin.Clear terminal)
    (connected : origin.input? terminal input = some connection)
    (binds : Binds terminal input connection conversion next)
    {other : String} {connection' : Connection} (apart : other ≠ input)
    (original : origin.input? terminal other = some connection')
    (same : next.shader? connection'.source = conversion.shader? connection'.source)
    (settled : conversion.Settled terminal other connection') :
    next.Settled terminal other connection' := by
  obtain ⟨first, second, third⟩ := clear.slots_apart connected original apart
  -- Neither of the two slots of the other input is touched, and the shader it reads is the same.
  have own : next.network.input? terminal other = conversion.network.input? terminal other := by
    rw [binds.inputs, boundSlot_of_ne apart first]
  have renamed : next.network.input? terminal (adapterName other) =
      conversion.network.input? terminal (adapterName other) := by
    rw [binds.inputs, boundSlot_of_ne second third]
  unfold Settled at settled ⊢
  rw [same, own, renamed]
  cases shader : conversion.shader? connection'.source with
  | none =>
    rw [shader] at settled
    exact settled
  | some entry =>
    simp only [shader] at settled ⊢
    cases output : entry.hasOutput connection'.output with
    | true =>
      simp only [output, if_true] at settled ⊢
      exact settled
    | false =>
      simp only [output, Bool.false_eq_true, if_false] at settled ⊢
      -- Warnings are only ever added.
      exact ⟨settled.1, settled.2.1, binds.warnings _ settled.2.2⟩

/-- Doing the next input leaves the terminal rewired up to the others. -/
theorem step (clear : origin.Clear terminal)
    (sequence : InSequence compile document searchPaths origin terminal sources conversion)
    (sequence' : InSequence compile document searchPaths origin terminal sources' next)
    (rewired : Rewired origin terminal (input :: ahead) conversion)
    (connected : origin.input? terminal input = some connection) (new : input ∉ ahead)
    (others : ∀ other ∈ ahead, ∃ connection', origin.input? terminal other = some connection')
    (binds : Binds terminal input connection conversion next) :
    Rewired origin terminal ahead next := by
  have present := fun node => sequence.within.derives.present node
  -- A node whose conversion was decided keeps its shader, and so stays converted or unconverted.
  have fixed : ∀ node, (origin.hasNode node = true → node ∈ Dict.keys conversion.keep) →
      next.shader? node = conversion.shader? node :=
    fun node decided => binds.shaders node fun _ there => decided (present node ▸ there)
  have stays : ∀ node ∈ conversion.summary.converted, node ∈ next.summary.converted := by
    intro node converted
    obtain ⟨met, entry, shader⟩ := sequence.resolved node converted
    exact mem_converted_of_shader? (by rw [fixed node fun _ => met, shader]; simp)
  -- What is still ahead is untouched, as the slots of two inputs are apart.
  constructor
  · intro other inside
    obtain ⟨connection', original⟩ := others other inside
    have apart : other ≠ input := fun same => new (same ▸ inside)
    rw [binds.inputs, boundSlot_of_ne apart (clear.slots_apart connected original apart).1]
    exact rewired.pending other (List.mem_cons_of_mem _ inside)
  · intro other connection' original done
    -- The input that is done is settled now, and all others were before.
    by_cases same : other = input
    · subst same
      cases connected.symm.trans original
      exact ⟨rewired.settled_self clear connected binds,
        fun there => binds.met ((present _).trans there)⟩
    · obtain ⟨settled, decided⟩ := rewired.settled other connection' original (by simp [same, done])
      exact ⟨settled_of_binds clear connected binds same original (fixed _ decided) settled,
        fun there => binds.keeps _ (decided there)⟩
  · intro slot read reads
    rw [binds.inputs] at reads
    rcases eq_of_boundSlot reads with ⟨rfl, bound, shader⟩ | ⟨before, free⟩
    -- The input that is done is bound under the adapters' name.
    · exact ⟨input, connected, .inr ⟨bound, new, mem_converted_of_shader? shader⟩⟩
    · obtain ⟨other, original, ⟨rfl, status⟩ | ⟨rfl, done, converted⟩⟩ :=
        rewired.only slot read before
      · refine ⟨slot, original, .inl ⟨rfl, ?_⟩⟩
        by_cases same : slot = input
        -- The input that is done was left alone, so its source has no shader.
        · subst same
          cases connected.symm.trans original
          exact .inr (sequence'.shader?_eq_none_iff.1 (free rfl))
        · by_cases inside : slot ∈ ahead
          · exact .inl inside
          · have done : slot ∉ input :: ahead := by simp [same, inside]
            have plain := sequence.shader?_eq_none_iff.2 (status.resolve_left done)
            have decided := (rewired.settled slot read original done).2
            exact .inr (sequence'.shader?_eq_none_iff.1 ((fixed _ decided).trans plain))
      · exact ⟨other, original, .inr ⟨rfl, fun inside => done (List.mem_cons_of_mem _ inside),
          stays _ converted⟩⟩
  · exact binds.type.trans rewired.type
  · exact fun name => (binds.parameters name).trans (rewired.parameters name)

/-- At the end of a run, all inputs of the terminal are settled. -/
theorem run (clear : origin.Clear terminal) (unread : ∀ input connection,
      origin.input? terminal input = some connection → connection.source ≠ terminal)
    (inputs : List (String × Connection)) (distinct : (inputs.map (·.1)).Nodup)
    (connected : ∀ entry ∈ inputs, origin.input? terminal entry.1 = some entry.2)
    (sequence : InSequence compile document searchPaths origin terminal (inputs.map (·.2.source)) conversion)
    (rewired : Rewired origin terminal (inputs.map (·.1)) conversion) :
    InSequence compile document searchPaths origin terminal []
        (Conversion.run compile document searchPaths terminal conversion (inputs.map (·.1))) ∧
      Rewired origin terminal []
        (Conversion.run compile document searchPaths terminal conversion (inputs.map (·.1))) := by
  unfold Conversion.run
  induction inputs generalizing conversion with
  | nil => exact ⟨sequence, rewired⟩
  | cons head rest ih =>
    obtain ⟨input, connection⟩ := head
    rw [List.map_cons, List.nodup_cons] at distinct
    have original := connected _ List.mem_cons_self
    -- What the input reads when its turn comes is what it read on entry.
    have reads := (rewired.pending input List.mem_cons_self).trans original
    -- The step is taken, and the other inputs go on from there.
    have moves := step_transition compile document searchPaths terminal conversion input
    have sequence' := sequence.transition reads moves
    have binds := sequence.binds reads (unread input connection original) moves
    refine ih distinct.2 (fun entry inside => connected entry (List.mem_cons_of_mem _ inside)) sequence'
      (rewired.step clear sequence sequence' original distinct.1 (fun other inside => ?_) binds)
    obtain ⟨entry, listed, rfl⟩ := List.mem_map.1 inside
    exact ⟨entry.2, connected entry (List.mem_cons_of_mem _ listed)⟩

end Rewired

section finish

variable (conversion : Conversion σ) (terminal : String)

/-- Pruning leaves the shaders of the nodes that were converted. -/
theorem shader?_finish {compile : Compiler σ} {document : Document} {searchPaths : List String}
    {origin : Network} {ahead : List String}
    (sequence : InSequence compile document searchPaths origin terminal ahead conversion) (node : String) :
    (conversion.finish terminal).shader? node = conversion.shader? node := by
  have listed : (conversion.finish terminal).summary.converted = conversion.summary.converted := rfl
  have registered : (conversion.finish terminal).registry = conversion.registry := rfl
  unfold shader?
  rw [listed, registered]
  by_cases converted : node ∈ conversion.summary.converted
  -- A converted node was met, and so it is not pruned.
  · have met := (sequence.resolved node converted).1
    have present := (sequence.within.derives.present node).trans (sequence.within.present_of_met met)
    have recorded := Network.mem_nodeNames_of_hasNode present
    have typed : (conversion.finish terminal).network.type? node = conversion.network.type? node := by
      unfold Network.type?
      rw [conversion.get?_finish terminal (.inr ⟨recorded, met⟩)]
    rw [typed]
  · simp only [if_neg converted]

/-- What is settled stays so while nodes are pruned. -/
theorem Settled.finish {compile : Compiler σ} {document : Document} {searchPaths : List String}
    {origin : Network} {ahead : List String}
    (sequence : InSequence compile document searchPaths origin terminal ahead conversion)
    {input : String} {connection : Connection} (settled : conversion.Settled terminal input connection) :
    (conversion.finish terminal).Settled terminal input connection := by
  have warnings : (conversion.finish terminal).warnings = conversion.warnings := rfl
  unfold Settled at settled ⊢
  -- Pruning changes no shader and no connection of the terminal.
  rw [shader?_finish conversion terminal sequence, input?_finish, input?_finish, warnings]
  exact settled

end finish

/-- At the start, everything is still ahead. -/
theorem inSequence_start {compile : Compiler σ} {document : Document} {searchPaths : List String}
    {registry : Registry} {compiler : σ} {network : Network} {terminal : String} {ahead : List String}
    (admits : registry.Admits
      (compiledEntries compile document searchPaths (network.fresh [] ahead) compiler)) :
    InSequence compile document searchPaths network terminal ahead
      ({ network, registry, compiler } : Conversion σ) where
  -- Nothing has been met, so all that is asked of the nodes met holds.
  within := .start network registry compiler terminal
  firstLevel _ := Iff.rfl
  admits := admits
  resolved _ converted := absurd converted List.not_mem_nil

/-- At the start, all inputs are ahead and read what they read. -/
theorem rewired_start (registry : Registry) (compiler : σ) (network : Network) (terminal : String) :
    Rewired network terminal (network.inputNames terminal)
      ({ network, registry, compiler } : Conversion σ) where
  pending _ _ := rfl
  -- No input is done, and every connection is that of an input ahead.
  settled _ connection connected done :=
    absurd (Network.mem_inputNames_iff.2 ⟨connection, connected⟩) done
  only slot connection connected :=
    ⟨slot, connected, .inl ⟨rfl, .inl (Network.mem_inputNames_iff.2 ⟨connection, connected⟩)⟩⟩
  type := rfl
  parameters _ := rfl

end Conversion

/-- What converting the inputs of a terminal leaves of the terminal. An input that reads a converted node
is bound under the adapters' name if the node's shader has the output, and else unbound with a warning.
All other inputs, the type and the parameters stay. -/
theorem Network.convertInputs_rewires {σ : Type} (compile : Compiler σ) (document : Document)
    (searchPaths : List String) (registry : Registry) (compiler : σ) (network : Network) (terminal : String)
    (unread : ∀ input connection, network.input? terminal input = some connection →
      connection.source ≠ terminal)
    (clear : network.Clear terminal)
    (admits : registry.Admits (Conversion.compiledEntries compile document searchPaths
      (network.fresh [] ((network.inputs terminal).map (·.2.source))) compiler)) :
    let after := network.convertInputs compile document searchPaths registry compiler terminal
    (∀ input connection, network.input? terminal input = some connection →
      (network.hasNode connection.source = false ∨ connection.source ∉ after.summary.converted →
        after.network.input? terminal input = some connection) ∧
      (connection.source ∈ after.summary.converted →
        ∃ entry, (after.network.type? connection.source).bind after.registry.find? = some entry ∧
          (entry.hasOutput connection.output = true →
            after.network.input? terminal (adapterName input) = some connection ∧
            (renamedInput? input ≠ none → after.network.input? terminal input = none)) ∧
          (entry.hasOutput connection.output = false →
            after.network.input? terminal input = none ∧
            after.network.input? terminal (adapterName input) = none ∧
            .missingOutput connection.output connection.source ∈ after.warnings))) ∧
    (∀ slot connection, after.network.input? terminal slot = some connection →
      ∃ input, network.input? terminal input = some connection ∧
        ((slot = input ∧ connection.source ∉ after.summary.converted) ∨
          (slot = adapterName input ∧ connection.source ∈ after.summary.converted))) ∧
    after.network.type? terminal = network.type? terminal ∧
    ∀ name, after.network.parameter? terminal name = network.parameter? terminal name := by
  intro after
  obtain ⟨sequence, rewired⟩ := Conversion.Rewired.run clear unread (network.inputs terminal)
    (network.inputNames_nodup terminal) (fun entry inside => mem_inputs_iff.1 inside)
    (Conversion.inSequence_start admits) (Conversion.rewired_start registry compiler network terminal)
  generalize made : Conversion.run compile document searchPaths terminal
    { network, registry, compiler } ((network.inputs terminal).map (·.1)) = conversion at sequence rewired
  -- Pruning comes after the run and leaves all that the statement speaks of.
  have final : after = conversion.finish terminal := made ▸ rfl
  have listed : after.summary.converted = conversion.summary.converted := final ▸ rfl
  have settled : ∀ input connection, network.input? terminal input = some connection →
      after.Settled terminal input connection := fun input connection connected =>
    final ▸ (rewired.settled input connection connected List.not_mem_nil).1.finish _ terminal sequence
  refine ⟨fun input connection connected => ⟨fun plain => ?_, fun converted => ?_⟩, ?_, ?_, ?_⟩
  · refine (settled input connection connected).of_unconverted fun converted => ?_
    -- A converted node was met, and so it exists.
    have met := (sequence.resolved _ (listed ▸ converted)).1
    rcases plain with missing | unconverted
    · simp [sequence.within.present_of_met met] at missing
    · exact unconverted converted
  · obtain ⟨_, entry, shader⟩ := sequence.resolved _ (listed ▸ converted)
    rw [← Conversion.shader?_finish conversion terminal sequence, ← final] at shader
    exact ⟨entry, Conversion.find?_of_shader? shader,
      (settled input connection connected).of_shader shader⟩
  · intro slot connection reads
    rw [final, Conversion.input?_finish] at reads
    rw [listed]
    obtain ⟨input, connected, ⟨same, status⟩ | ⟨same, _, converted⟩⟩ :=
      rewired.only slot connection reads
    · exact ⟨input, connected, .inl ⟨same, status.resolve_left List.not_mem_nil⟩⟩
    · exact ⟨input, connected, .inr ⟨same, converted⟩⟩
  · rw [final, Conversion.type?_finish]
    exact rewired.type
  · intro name
    rw [final, Conversion.parameter?_finish]
    exact rewired.parameters name

namespace Conversion.Emissive

/-- A surface that reads one node at three inputs, one of them reserved and one at an output that no shader
has, and a missing node at a fourth. -/
def network : Network where
  materialPath := "/M"
  nodes := Dict.ofList [
    ("/M/a", ⟨"add", Dict.empty, Dict.empty⟩),
    ("/M/t", ⟨"surface", Dict.empty, Dict.ofList [("base", ⟨"/M/a", "out"⟩),
      ("coat", ⟨"/M/a", "mask"⟩), ("emission", ⟨"/M/a", "out"⟩), ("sheen", ⟨"/M/b", "out"⟩)]⟩)]
  terminals := Dict.empty

/-- The document that the node is found in. -/
def document : Document where
  graphs := [{ name := "M", nodes := [{ name := "a", category := "add", type := "float" }] }]

/-- A compiler that makes the same shader of every source. -/
def compile : Compiler Unit := fun _ _ state =>
  (⟨some ⟨"sum.oso", .ok "shader sum\noparam float out"⟩, []⟩, state)

/-- The source for the node is generated. -/
theorem generate_ok : ∃ source, Shader.generate document [] (shaderNameFor "/M/a") (NodePath.leaf "/M/a")
    (NodePath.parent "/M/a") = .ok source := by
  -- The program is computed by evaluation, and the source is its text.
  obtain ⟨program, result⟩ : ∃ program, Shader.program document [] (shaderNameFor "/M/a")
      (NodePath.leaf "/M/a") (NodePath.parent "/M/a") = .ok program := ok_of_isSome (by cbv)
  exact ⟨program.text, Shader.generate_of_program result⟩

/-- Compiling the node installs the one shader. -/
theorem compileNode_found (conversion : Conversion Unit) (terminal input output : String) :
    compileNode compile document [] conversion terminal input ⟨"/M/a", output⟩ =
      ({ conversion with
        compiler := ()
        summary := { conversion.summary with generated := conversion.summary.generated + 1 } } :
          Conversion Unit).install terminal input ⟨"/M/a", output⟩
            ⟨some ⟨"sum.oso", .ok "shader sum\noparam float out"⟩, []⟩ := by
  obtain ⟨source, generated⟩ := generate_ok
  -- The source is generated, and the compiler makes the same shader of every source.
  simp only [compileNode, generated, compile]

/-- The one shader can be registered. -/
theorem admits : Registry.empty.Admits (compiledEntries compile document []
    (network.fresh [] ((network.inputs "/M/t").map (·.2.source))) ()) := by
  have fresh : network.fresh [] ((network.inputs "/M/t").map (·.2.source)) = ["/M/a"] := by cbv
  obtain ⟨source, generated⟩ := generate_ok
  rw [fresh]
  simp only [compiledEntries, compiledShader, generated, compile, List.append_nil, Option.bind_some]
  refine ⟨?_, fun _ _ => rfl⟩
  -- There is at most one entry.
  cases CompiledShader.entry? ⟨"sum.oso", .ok "shader sum\noparam float out"⟩ with
  | none => exact List.nodup_nil
  | some entry => simp

/-- The conversion at its start. -/
def start : Conversion Unit := { network, registry := Registry.empty, compiler := () }

/-- The first input has its source compiled. -/
theorem step_base :
    step compile document [] "/M/t" start "base" =
      ({ start.meet "/M/a" with
        compiler := ()
        summary := { (start.meet "/M/a").summary with
          generated := (start.meet "/M/a").summary.generated + 1 } } : Conversion Unit).install
        "/M/t" "base" ⟨"/M/a", "out"⟩
        ⟨some ⟨"sum.oso", .ok "shader sum\noparam float out"⟩, []⟩ := by
  -- The source is new and present, so it is compiled, with an answer that is known.
  have connected : start.network.input? "/M/t" "base" = some ⟨"/M/a", "out"⟩ := by decide
  rw [step_of_new _ _ _ connected (by decide) List.not_mem_nil, compileNode_found]

/-- The node is converted to a shader that has one of the two outputs that are read. -/
theorem outputs :
    let after := network.convertInputs compile document [] Registry.empty () "/M/t"
    (after.summary.converted, ((after.network.type? "/M/a").bind after.registry.find?).map
      fun entry => (entry.hasOutput "out", entry.hasOutput "mask")) =
        (["/M/a"], some (true, false)) := by
  have inputs : network.inputNames "/M/t" = ["base", "coat", "emission", "sheen"] := by decide
  have begins : ({ network, registry := Registry.empty, compiler := () } : Conversion Unit) = start := rfl
  -- The first step is known, and the others find the node met.
  simp only [Network.convertInputs, inputs, run, List.foldl_cons, begins, step_base]
  cbv

/-- Of the inputs, the first stays bound, the one at the missing output is unbound, the reserved one moves
to the adapters' name and the dangling one stays. -/
theorem rewires :
    (∀ input connection, network.input? "/M/t" input = some connection → connection.source ≠ "/M/t") ∧
    network.Clear "/M/t" ∧
    let after := network.convertInputs compile document [] Registry.empty () "/M/t"
    after.network.input? "/M/t" "base" = some ⟨"/M/a", "out"⟩ ∧
    after.network.input? "/M/t" "coat" = none ∧
    .missingOutput "mask" "/M/a" ∈ after.warnings ∧
    after.network.input? "/M/t" "emission" = none ∧
    after.network.input? "/M/t" "emission_value" = some ⟨"/M/a", "out"⟩ ∧
    after.network.input? "/M/t" "sheen" = some ⟨"/M/b", "out"⟩ := by
  have unread : ∀ input connection, network.input? "/M/t" input = some connection →
      connection.source ≠ "/M/t" := by
    intro input connection connected
    have listed := Network.mem_inputs_iff.2 connected
    have inputs : network.inputs "/M/t" = [("base", ⟨"/M/a", "out"⟩), ("coat", ⟨"/M/a", "mask"⟩),
      ("emission", ⟨"/M/a", "out"⟩), ("sheen", ⟨"/M/b", "out"⟩)] := by decide
    rw [inputs] at listed
    simp only [List.mem_cons, Prod.mk.injEq, List.not_mem_nil, or_false] at listed
    rcases listed with ⟨_, rfl⟩ | ⟨_, rfl⟩ | ⟨_, rfl⟩ | ⟨_, rfl⟩
    · decide
    · decide
    · decide
    · decide
  -- None of the reserved names for the adapters is connected.
  have clear : network.Clear "/M/t" := by
    intro reserved inside
    simp only [reservedInputs, List.mem_cons, List.not_mem_nil, or_false] at inside
    rcases inside with rfl | rfl | rfl
    · decide
    · decide
    · decide
  obtain ⟨inputs, _⟩ := Network.convertInputs_rewires compile document [] Registry.empty () network "/M/t"
    unread clear admits
  obtain ⟨converted, found⟩ := Prod.mk.inj outputs
  obtain ⟨entry, registered, has⟩ := Option.map_eq_some_iff.1 found
  obtain ⟨hasOut, lacksMask⟩ := Prod.mk.inj has
  -- The three connected to the node are decided by its shader, the other one by its source.
  refine ⟨unread, clear, ?_⟩
  have member : "/M/a" ∈
      (network.convertInputs compile document [] Registry.empty () "/M/t").summary.converted := by
    rw [converted]
    exact List.mem_singleton_self _
  obtain ⟨entry₁, registered₁, base, _⟩ := (inputs "base" ⟨"/M/a", "out"⟩ (by decide)).2 member
  cases registered.symm.trans registered₁
  obtain ⟨entry₂, registered₂, _, coat⟩ := (inputs "coat" ⟨"/M/a", "mask"⟩ (by decide)).2 member
  cases registered.symm.trans registered₂
  obtain ⟨entry₃, registered₃, emission, _⟩ := (inputs "emission" ⟨"/M/a", "out"⟩ (by decide)).2 member
  cases registered.symm.trans registered₃
  have moved : adapterName "emission" = "emission_value" := by decide
  have kept : adapterName "base" = "base" := by decide
  exact ⟨kept ▸ (base hasOut).1, (coat lacksMask).1, (coat lacksMask).2.2,
    (emission hasOut).2 (by decide), moved ▸ (emission hasOut).1,
    (inputs "sheen" ⟨"/M/b", "out"⟩ (by decide)).1 (.inl (by decide))⟩

end Conversion.Emissive

end ShadeBake

import Mathlib
import ShadeBake.Proofs.Bake.Bindings
import ShadeBake.Proofs.Conversion.Outcome

/-! A run that converts all that feeds the surface leaves nothing but the closure, the adapter and compiled
shaders behind the surface binding. -/

namespace ShadeBake

namespace Network

variable {origin network adapted : Network} {terminal : String} {pruned : List String}
  {node source : String}

/-- What a node reads after trimming, it read before. -/
theorem Trimmed.reads (trims : Trimmed origin terminal pruned network) (reads : network.Reads node source) :
    origin.Reads node source := by
  -- Trimming connects nothing, so a connection that is there was there before.
  obtain ⟨present, name, connection, connected, same⟩ := reads
  obtain ⟨_, earlier, original⟩ := trims.inputs node name connection connected
  exact ⟨((trims.present source).1 present).1, earlier, connection, original, same⟩

/-- What a node reads after a terminal is adapted, it read before, unless that is the terminal or its
closure. The closure reads the terminal anew, and all else it read before. -/
theorem Adapted.reads (adapts : Adapted network terminal adapted) (reads : adapted.Reads node source) :
    source = terminal ∨ (source = closureNode terminal ∧ node ∈ network.nodeNames) ∨
      network.Reads node source := by
  obtain ⟨present, name, connection, connected, rfl⟩ := reads
  rcases adapts.inputs node name connection connected with closure | before
  · exact .inl closure.2
  -- The connection is an old one, so the source is old too or was made while adapting.
  · rcases (adapts.present connection.source).1 present with isClosure | isTerminal | there
    · exact .inr (.inl ⟨isClosure, mem_nodeNames_of_input? before⟩)
    · exact .inl isTerminal
    · exact .inr (.inr ⟨there, name, connection, before, rfl⟩)

end Network

namespace Bake

variable {σ : Type} (context : BakeContext) (compile : Compiler σ) (registry : Registry) (compiler : σ)
  (network : Network) (terminal : String)

/-- The nodes that a run meets, each with the entry of the shader that it is compiled to. -/
def outcomes : List (String × Option ShaderEntry) :=
  Conversion.outcomes compile (routedDocument context registry network terminal).document
    context.library.searchPaths
    (rewriting context compile registry compiler network terminal).summary.firstLevel compiler

/-- Converting the inputs in a run rewrites the network and prunes it, also where there are no inputs. -/
theorem convertInputs_eq :
    let converted := convertInputs context compile registry compiler network terminal
    let rewritten := rewriting context compile registry compiler network terminal
    converted.network = (rewritten.finish terminal).network ∧
      converted.registry = rewritten.registry ∧
      converted.report.converted = rewritten.summary.converted.length := by
  unfold convertInputs
  by_cases nothing : network.inputNames terminal = []
  -- Without inputs there are no candidates, and nothing is deleted.
  · have rewritten : rewriting context compile registry compiler network terminal =
        { network, registry, compiler } := by
      unfold rewriting
      rw [nothing]
      rfl
    simp only [if_pos nothing, rewritten]
    exact ⟨rfl, rfl, rfl⟩
  · rw [if_neg nothing]
    exact ⟨rfl, rfl, rfl⟩

/-- A run that reports its terminal transformed has adapted it after converting its inputs. -/
theorem adapt_of_transformed {baked : Baked σ} {terminal : String}
    (before : baked.report.transformed = false)
    (done : (transform baked terminal).report.transformed = true) :
    ∃ surface adapter closure, Surface.ofNodeType (baked.network.typeOf terminal) = .ok surface ∧
      (transform baked terminal).network = baked.network.adapt terminal surface adapter closure ∧
      (transform baked terminal).registry = baked.registry ∧
      (transform baked terminal).report.converted = baked.report.converted := by
  unfold transform at done ⊢
  -- A terminal that cannot be transformed is reported as it was before.
  cases transformed : baked.network.transformTerminal baked.registry terminal with
  | ok network =>
    obtain ⟨surface, adapter, closure, typed, adapted⟩ := Network.eq_adapt_of_transformTerminal transformed
    exact ⟨surface, adapter, closure, typed, adapted, rfl, rfl⟩
  | error warning => simp [transformed, before] at done

/-- A run on a network with a surface node converts what feeds that and then transforms it. -/
theorem bake_eq (found : surfaceNode? registry network = some terminal) :
    network.bake context compile registry compiler =
      transform (convertInputs context compile registry compiler network terminal) terminal := by
  -- The surface node is the terminal that is converted.
  unfold Network.bake
  rw [found]

/-- A run that reports its surface transformed has converted its inputs and adapted it. -/
theorem bake_of_transformed (found : surfaceNode? registry network = some terminal)
    (done : (network.bake context compile registry compiler).report.transformed = true) :
    let baked := network.bake context compile registry compiler
    let rewritten := rewriting context compile registry compiler network terminal
    ∃ surface adapter closure,
      Surface.ofNodeType ((rewritten.finish terminal).network.typeOf terminal) = .ok surface ∧
      baked.network = (rewritten.finish terminal).network.adapt terminal surface adapter closure ∧
      baked.registry = rewritten.registry ∧
      baked.report.converted = rewritten.summary.converted.length := by
  -- The surface is known by the rewritten network, as transforming comes after rewriting.
  rw [bake_eq context compile registry compiler network terminal found] at done ⊢
  obtain ⟨surface, adapter, closure, typed, adapted, registered, counted⟩ := adapt_of_transformed
    (transformed_convertInputs context compile registry compiler network terminal) done
  obtain ⟨rewritten, registered', counted'⟩ :=
    convertInputs_eq context compile registry compiler network terminal
  rw [rewritten] at typed adapted
  exact ⟨surface, adapter, closure, typed, adapted, registered.trans registered', counted.trans counted'⟩

/-- The conversion in a run accounts for the nodes. -/
theorem rewriting_accounts (unread : ∀ input connection, network.input? terminal input = some connection →
      connection.source ≠ terminal) :
    Conversion.Accounts compile (routedDocument context registry network terminal).document
      context.library.searchPaths registry compiler network terminal
      (rewriting context compile registry compiler network terminal) :=
  -- The accounts hold at the start, and every step keeps them.
  (Conversion.accounts_start compile _ _ registry compiler network terminal).run unread _

/-- Where as many nodes are converted as the terminal reads, every node that it reads is. -/
theorem mem_converted_of_length (unread : ∀ input connection,
      network.input? terminal input = some connection → connection.source ≠ terminal)
    (all : (rewriting context compile registry compiler network terminal).summary.converted.length =
      (network.sources terminal).dedup.length)
    {node : String} (reads : network.Reads terminal node) :
    node ∈ (rewriting context compile registry compiler network terminal).summary.converted := by
  have accounts := rewriting_accounts context compile registry compiler network terminal unread
  -- The converted nodes are distinct and read by the terminal, so none of those is left out.
  have within : (rewriting context compile registry compiler network terminal).summary.converted ⊆
      (network.sources terminal).dedup := fun other converted => by
    have met := accounts.met_of_converted converted
    exact List.mem_dedup.2 (Network.mem_sources_iff.2
      (accounts.within.kept other ((accounts.met other).1 met)))
  have same := (List.subperm_of_subset accounts.converted_nodup within).perm_of_length_le all.ge
  exact same.mem_iff.2 (List.mem_dedup.2 (Network.mem_sources_iff.2 reads))

/-- A node is finished in a baked material when it is the closure of the terminal, or the terminal as the
adapter of its surface, or was converted to a registered shader and has nothing but the shader's type. -/
def Finished (outcomes : List (String × Option ShaderEntry)) (surface : Surface) (terminal : String)
    (baked : Baked σ) (node : String) : Prop :=
  (node = closureNode terminal ∧ baked.network.typeOf node = closureNodeType) ∨
  (node = terminal ∧ baked.network.typeOf node = surface.adapter) ∨
  ∃ shader, (node, some shader) ∈ outcomes ∧
    baked.registry.findTyped? shader.identifier ShaderEntry.shaderType ≠ none ∧
    baked.network.nodes.get? node = some ⟨shader.identifier, Dict.empty, Dict.empty⟩

variable {context compile registry compiler network terminal}

/-- A node that was converted has a shader that is registered, and nothing but that shader's type once the
terminal is adapted. -/
theorem shader_of_converted (unread : ∀ input connection,
      network.input? terminal input = some connection → connection.source ≠ terminal)
    (free : closureNode terminal ∉ network.nodeNames) (surface : Surface) (adapter closure : ShaderEntry)
    {node : String}
    (converted : node ∈ (rewriting context compile registry compiler network terminal).summary.converted) :
    let rewritten := rewriting context compile registry compiler network terminal
    ∃ shader, (node, some shader) ∈ outcomes context compile registry compiler network terminal ∧
      rewritten.registry.findTyped? shader.identifier ShaderEntry.shaderType ≠ none ∧
      ((rewritten.finish terminal).network.adapt terminal surface adapter closure).nodes.get? node =
        some ⟨shader.identifier, Dict.empty, Dict.empty⟩ := by
  intro rewritten
  have accounts := rewriting_accounts context compile registry compiler network terminal unread
  have met := accounts.met_of_converted converted
  rw [accounts.converted] at converted
  obtain ⟨shader, listed⟩ := Conversion.mem_successes_iff.1 converted
  refine ⟨shader, listed, ?_, ?_⟩
  -- The shader is among those that were inserted.
  · rw [accounts.registered]
    exact Registry.findTyped?_insertAll_ne_none
      (.inl ⟨shader, Conversion.mem_entries listed, rfl, Conversion.sourceType_of_mem_outcomes listed⟩)
  -- The node exists on entry, and so it is not the closure.
  · have recorded := (accounts.within.derives.records node).1 (accounts.recorded met)
    have apart : node ≠ closureNode terminal := fun same => free (same ▸ recorded)
    rw [Network.get?_adapt _ terminal surface adapter closure (accounts.ne_of_met unread met) apart,
      accounts.get?_met met]
    exact accounts.stripped node shader listed

/-- Where every node that the terminal reads is converted and the terminal is transformed, all that the
closure draws on is finished. -/
theorem finished_of_reachable (found : surfaceNode? registry network = some terminal)
    (unread : ∀ input connection, network.input? terminal input = some connection →
      connection.source ≠ terminal)
    (free : closureNode terminal ∉ network.nodeNames)
    (all : (network.bake context compile registry compiler).report.converted =
      (network.sources terminal).dedup.length)
    (done : (network.bake context compile registry compiler).report.transformed = true) :
    let baked := network.bake context compile registry compiler
    baked.network.terminal? Network.surfaceTerminal = some ⟨closureNode terminal, ""⟩ ∧
    ∃ surface, Surface.ofNodeType (network.typeOf terminal) = .ok surface ∧
      ∀ node, (baked.network.reachable [closureNode terminal]).contains node = true →
        Finished (outcomes context compile registry compiler network terminal) surface terminal baked
          node := by
  intro baked
  obtain ⟨surface, adapter, closure, typed, adapted, registered, counted⟩ :=
    bake_of_transformed context compile registry compiler network terminal found done
  have accounts := rewriting_accounts context compile registry compiler network terminal unread
  -- The network is trimmed by converting and pruning, and the result of that is adapted.
  have trims := trimmed_convertInputs context compile registry compiler network terminal
  rw [(convertInputs_eq context compile registry compiler network terminal).1] at trims
  have adapts := Network.adapted_adapt
    ((rewriting context compile registry compiler network terminal).finish terminal).network terminal surface
    adapter closure
  rw [← adapted] at adapts
  -- Neither converting nor pruning changes the type of the terminal.
  have type : ((rewriting context compile registry compiler network terminal).finish
      terminal).network.typeOf terminal = network.typeOf terminal := by
    rw [Conversion.typeOf_finish, accounts.typed]
  have isTerminal : Finished (outcomes context compile registry compiler network terminal) surface terminal
      baked terminal := by
    refine .inr (.inl ⟨rfl, ?_⟩)
    rw [adapted, Network.typeOf_adapt, if_neg (Ne.symm (Network.ne_closureNode terminal)), if_pos rfl]
  have isClosure : Finished (outcomes context compile registry compiler network terminal) surface terminal
      baked (closureNode terminal) :=
    .inl ⟨rfl, by rw [adapted, Network.typeOf_adapt, if_pos rfl]⟩
  refine ⟨by rw [adapts.bindings, if_pos rfl], surface, type ▸ typed, fun node reached => ?_⟩
  obtain ⟨root, isRoot, draws⟩ := Network.mem_reachable_iff.1 reached
  rw [List.mem_singleton.1 isRoot] at draws
  clear reached
  -- Along the chain each node is finished because the one before it is.
  induction draws with
  | refl => exact isClosure
  | tail _ reads finished =>
    rcases finished with ⟨rfl, _⟩ | ⟨rfl, _⟩ | ⟨shader, _, _, record⟩
    -- The closure had no record, so all that it reads is the terminal.
    · have absent : closureNode terminal ∉
          ((rewriting context compile registry compiler network terminal).finish
            terminal).network.nodeNames := fun there => free ((trims.records _).1 there).1
      rcases adapts.reads reads with rfl | ⟨_, recorded⟩ | before
      · exact isTerminal
      · exact absurd recorded absent
      · obtain ⟨_, name, connection, connected, _⟩ := before
        exact absurd (Network.mem_nodeNames_of_input? connected) absent
    -- What the terminal reads it read on entry, and so it was converted.
    · rcases adapts.reads reads with rfl | ⟨rfl, _⟩ | before
      · exact isTerminal
      · exact isClosure
      · have converted := mem_converted_of_length context compile registry compiler network _ unread
          (counted.symm.trans all) (trims.reads before)
        obtain ⟨shader, listed, known, record⟩ :=
          shader_of_converted unread free surface adapter closure converted
        exact .inr (.inr ⟨shader, listed, registered ▸ known, adapted ▸ record⟩)
    -- A converted node reads nothing.
    · obtain ⟨_, name, connection, connected, _⟩ := reads
      simp [Network.input?, record] at connected

end Bake

/-- Baking a material completely: where every existing node that feeds the surface node is converted and the
surface node is transformed, the surface is bound to the closure, and all that feeds the closure is the
closure itself, the surface node as its adapter, or a node that was converted to a registered shader and has
neither parameters nor inputs. -/
theorem Network.bakeMaterial_complete {σ : Type} (context : BakeContext) (compile : Compiler σ)
    (registry : Registry) (compiler : σ) (materialPath : String) (network : Network) (terminal : String)
    (found : Bake.surfaceNode? registry network = some terminal)
    (unread : ∀ input connection, network.input? terminal input = some connection →
      connection.source ≠ terminal)
    (free : closureNode terminal ∉ network.nodeNames)
    (all : (network.bakeMaterial context compile registry compiler materialPath).report.converted =
      (network.sources terminal).dedup.length)
    (done : (network.bakeMaterial context compile registry compiler
      materialPath).report.transformed = true) :
    let entry := if materialPath = "" then network else { network with materialPath }
    let baked := network.bakeMaterial context compile registry compiler materialPath
    baked.network.terminal? Network.surfaceTerminal = some ⟨closureNode terminal, ""⟩ ∧
    ∃ surface, Surface.ofNodeType (network.typeOf terminal) = .ok surface ∧
      ∀ node, (baked.network.reachable [closureNode terminal]).contains node = true →
        Bake.Finished (Bake.outcomes context compile registry compiler entry terminal) surface terminal baked
          node := by
  unfold bakeMaterial at all done ⊢
  dsimp only
  -- The material's path is no part of the nodes or the bindings.
  split at all
  · rename_i own
    rw [if_pos own] at done ⊢
    exact Bake.finished_of_reachable found unread free all done
  · rename_i given
    rw [if_neg given] at done ⊢
    exact Bake.finished_of_reachable found unread free all done

namespace Bake.Layered

/-- A material whose surface reads a node that reads another one. -/
def network : Network where
  materialPath := "/M"
  nodes := Dict.ofList [
    ("/M/a", ⟨"add", Dict.empty, Dict.ofList [("in", ⟨"/M/b", "out"⟩)]⟩),
    ("/M/b", ⟨"add", Dict.empty, Dict.empty⟩),
    ("/M/t", ⟨Surface.standard.nodeType, Dict.empty, Dict.ofList [("base", ⟨"/M/a", "out"⟩)]⟩)]
  terminals := Dict.ofList [("surface", ⟨"/M/t", "out"⟩)]

/-- The definitions of its two types, the adapter of its surface and the closure. -/
def registry : Registry where
  entries := [
    { identifier := "add", sourceType := ShaderEntry.definitionType, family := "add", role := none
      inputs := [⟨"in", "float", none⟩], outputs := [⟨"out", "float", none⟩]
      metadata := Dict.empty, assetPath := none },
    { identifier := Surface.standard.nodeType, sourceType := ShaderEntry.definitionType, family := "surface"
      role := none, inputs := [⟨"base", "float", none⟩], outputs := [⟨"out", "surfaceshader", none⟩]
      metadata := Dict.empty, assetPath := none },
    { identifier := Surface.standard.adapter, sourceType := ShaderEntry.shaderType, family := ""
      role := none, inputs := [⟨"base", "float", none⟩], outputs := [⟨"diffuseOut", "float", none⟩]
      metadata := Dict.empty, assetPath := none },
    { identifier := closureNodeType, sourceType := ShaderEntry.closureType, family := "", role := none
      inputs := [⟨"diffuse", "float", none⟩], outputs := []
      metadata := Dict.empty, assetPath := none }]

/-- The source for the node that the surface reads is generated. -/
theorem generate_ok : ∃ source, Shader.generate
    (routedDocument Shared.context registry network "/M/t").document Shared.context.library.searchPaths
    (Conversion.shaderNameFor "/M/a") (NodePath.leaf "/M/a") (NodePath.parent "/M/a") = .ok source := by
  -- The program is computed by evaluation, and the source is its text.
  obtain ⟨program, result⟩ : ∃ program, Shader.program
      (routedDocument Shared.context registry network "/M/t").document Shared.context.library.searchPaths
      (Conversion.shaderNameFor "/M/a") (NodePath.leaf "/M/a") (NodePath.parent "/M/a") = .ok program :=
    ok_of_isSome (by cbv)
  exact ⟨program.text, Shader.generate_of_program result⟩

/-- The one node that the surface reads is converted, and the surface is transformed. -/
theorem report :
    let baked := network.bakeMaterial Shared.context Shared.compile registry () ""
    (baked.report.converted, baked.report.transformed) = (1, true) := by
  have surface : surfaceNode? registry network = some "/M/t" := by cbv
  have reads : network.inputNames "/M/t" = ["base"] := by decide
  have connected : network.input? "/M/t" "base" = some ⟨"/M/a", "out"⟩ := by decide
  have present : network.hasNode "/M/a" = true := by decide
  have new : Dict.contains (Dict.empty : NameSet) "/M/a" = false := rfl
  obtain ⟨source, generated⟩ := generate_ok
  unfold Network.bakeMaterial Network.bake
  simp only [if_true, surface, convertInputs, reads, List.cons_ne_nil, if_false]
  -- What the compiler is given does not matter to it, so the document may be any that gives a source.
  generalize routedDocument Shared.context registry network "/M/t" = routed at generated
  simp only [Network.convertInputs, reads, Conversion.run, List.foldl, Conversion.step, connected, present,
    new, if_true, if_false, Bool.false_eq_true, Conversion.compileNode, generated]
  cbv

/-- Behind the surface binding there are only the closure, the adapter and nodes that are left with nothing but
their types. -/
theorem complete :
    let baked := network.bakeMaterial Shared.context Shared.compile registry () ""
    ∀ node, (baked.network.reachable [closureNode "/M/t"]).contains node = true →
      node = "/M/t_PxrSurface" ∨ node = "/M/t" ∨
        ∃ identifier, baked.network.nodes.get? node = some ⟨identifier, Dict.empty, Dict.empty⟩ := by
  have found : surfaceNode? registry network = some "/M/t" := by cbv
  have unread : ∀ input connection, network.input? "/M/t" input = some connection →
      connection.source ≠ "/M/t" := Network.source_ne_of_inputs (by decide)
  have free : closureNode "/M/t" ∉ network.nodeNames := by decide
  have all : (network.sources "/M/t").dedup.length = 1 := by decide
  -- The surface reads one node, and the report counts one that was converted.
  obtain ⟨converted, transformed⟩ := Prod.mk.inj report
  obtain ⟨_, _, _, finished⟩ := Network.bakeMaterial_complete Shared.context Shared.compile registry () ""
    network "/M/t" found unread free (converted.trans all.symm) transformed
  intro baked node reached
  -- What is finished is the closure, the terminal, or a converted node without inputs.
  rcases finished node reached with ⟨isClosure, _⟩ | ⟨isTerminal, _⟩ | ⟨shader, _, _, record⟩
  · exact .inl isClosure
  · exact .inr (.inl isTerminal)
  · exact .inr (.inr ⟨shader.identifier, record⟩)

end Bake.Layered

end ShadeBake

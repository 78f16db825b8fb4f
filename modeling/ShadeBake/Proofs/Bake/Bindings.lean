import Mathlib
import ShadeBake.Proofs.Bake.Run
import ShadeBake.Proofs.Success

/-! When the bindings of a material survive a run: exactly if none reads a node that the run discards. -/

namespace ShadeBake

namespace Network

/-- The bindings of a network hold when each reads a node that exists. -/
def BindingsHold (network : Network) : Prop :=
  ∀ slot connection, network.terminal? slot = some connection → network.hasNode connection.source = true

variable {origin network adapted : Network} {terminal : String} {pruned : List String}

/-- After trimming, the bindings hold that read nothing pruned. -/
theorem Trimmed.bindingsHold_iff (trims : Trimmed origin terminal pruned network)
    (hold : origin.BindingsHold) :
    network.BindingsHold ↔
      ∀ slot connection, origin.terminal? slot = some connection → connection.source ∉ pruned := by
  -- Trimming binds no slot, so both networks have the same bindings.
  have bindings : ∀ slot, network.terminal? slot = origin.terminal? slot := fun slot => by
    simp only [terminal?, trims.bindings]
  constructor
  · intro after slot connection binding
    have kept := after slot connection ((bindings slot).trans binding)
    exact ((trims.present _).1 kept).2
  · intro safe slot connection binding
    have before := (bindings slot).symm.trans binding
    exact (trims.present _).2 ⟨hold slot connection before, safe slot connection before⟩

/-- After adapting a terminal, the bindings hold of all slots but that of the surface exactly as before,
unless they read the closure or the terminal. -/
theorem Adapted.bindingsHold_iff (adapts : Adapted network terminal adapted) :
    adapted.BindingsHold ↔
      ∀ slot connection, slot ≠ surfaceTerminal → network.terminal? slot = some connection →
        connection.source = closureNode terminal ∨ connection.source = terminal ∨
          network.hasNode connection.source = true := by
  -- What exists is what did, the terminal and the closure.
  constructor
  · intro after slot connection elsewhere binding
    refine (adapts.present _).1 (after slot connection ?_)
    rw [adapts.bindings, if_neg elsewhere]
    exact binding
  · intro safe slot connection binding
    rw [adapts.bindings] at binding
    split at binding
    -- The surface is bound to the closure.
    · simp only [Option.some.injEq] at binding
      exact (adapts.present _).2 (.inl (binding ▸ rfl))
    · rename_i elsewhere
      exact (adapts.present _).2 (safe slot connection elsewhere binding)

end Network

namespace Bake

variable {σ : Type} (context : BakeContext) (compile : Compiler σ) (registry : Registry) (compiler : σ)
  (network : Network) (terminal : String)

/-- A run discards a node that exists when, in the rewritten network, neither the terminal, nor a node
that it read, nor a node that was not collected draws on it. -/
def Discards (node : String) : Prop :=
  let rewritten := rewriting context compile registry compiler network terminal
  network.hasNode node = true ∧ ∀ anchor,
    (anchor = terminal ∨ anchor ∈ Dict.keys rewritten.keep ∨
      (anchor ∈ network.nodeNames ∧ anchor ∉ Dict.keys rewritten.candidates)) →
    ¬rewritten.network.DrawsOn anchor node

/-- Exactly the discarded nodes are pruned. -/
theorem mem_pruned_iff {node : String} :
    node ∈ pruned context compile registry compiler network terminal ↔
      Discards context compile registry compiler network terminal node := by
  have within := rewriting_within context compile registry compiler network terminal
  unfold pruned Discards
  rw [Network.mem_prunable_iff, within.derives.present]
  constructor
  · rintro ⟨_, present, unused⟩
    refine ⟨present, fun anchor stays => unused anchor (Network.mem_anchors_iff.2 ?_)⟩
    rcases stays with same | met | ⟨recorded, uncollected⟩
    · exact .inl same
    -- A node that was met exists, and so has a record.
    · have there := (within.derives.present anchor).trans (within.present_of_met met)
      exact .inr ⟨Network.mem_nodeNames_of_hasNode there, .inl met⟩
    · exact .inr ⟨(within.derives.records anchor).2 recorded, .inr uncollected⟩
  · rintro ⟨present, unused⟩
    refine ⟨?_, present, fun anchor anchored => unused anchor ?_⟩
    -- A node that was not collected draws on itself.
    · refine Classical.byContradiction fun uncollected => ?_
      exact unused node (.inr (.inr ⟨Network.mem_nodeNames_of_hasNode present, uncollected⟩)) .refl
    · rcases Network.mem_anchors_iff.1 anchored with same | ⟨recorded, met | uncollected⟩
      · exact .inl same
      · exact .inr (.inl met)
      · exact .inr (.inr ⟨(within.derives.records anchor).1 recorded, uncollected⟩)

/-- A discarded node is not the terminal, and feeds a node that the terminal reads. -/
theorem Discards.feeds {node : String}
    (discarded : Discards context compile registry compiler network terminal node) :
    node ≠ terminal ∧ ∃ first, first ≠ node ∧ network.Reads terminal first ∧
      Relation.TransGen network.Reads first node := by
  have within := rewriting_within context compile registry compiler network terminal
  obtain ⟨collected, _, _⟩ := Network.mem_prunable_iff.1 ((mem_pruned_iff ..).2 discarded)
  obtain ⟨first, met, draws⟩ := within.gathered node collected
  -- The terminal and the nodes met draw on themselves.
  have notTerminal : node ≠ terminal := fun same => discarded.2 node (.inl same) .refl
  have notMet : node ∉ Dict.keys (rewriting context compile registry compiler network terminal).keep :=
    fun inside => discarded.2 node (.inr (.inl inside)) .refl
  exact ⟨notTerminal, first, fun same => notMet (same ▸ met), within.kept first met, draws⟩

/-- The surface slot is bound to the surface node. -/
theorem source_of_surfaceNode? {terminal : String} (found : surfaceNode? registry network = some terminal) :
    ∃ output, network.terminal? Network.surfaceTerminal = some ⟨terminal, output⟩ := by
  unfold surfaceNode? at found
  -- There is a surface node only where the slot is bound and the type there is defined.
  cases bound : network.terminal? Network.surfaceTerminal with
  | none => simp [bound] at found
  | some binding =>
    cases defined : registry.definition? (network.typeOf binding.source) with
    | none => simp [bound, defined] at found
    | some definition =>
      simp only [bound, defined, Option.bind_eq_bind, Option.bind_some, Option.pure_def,
        Option.some.injEq] at found
      exact ⟨binding.output, found ▸ rfl⟩

/-- Bindings that hold before a run hold after it exactly if each reads a node that is not discarded, or the
closure of a transformed terminal. -/
theorem bindingsHold_bake_iff (hold : network.BindingsHold) :
    (network.bake context compile registry compiler).network.BindingsHold ↔
      ∀ terminal, surfaceNode? registry network = some terminal →
        ∀ slot connection, network.terminal? slot = some connection →
          Discards context compile registry compiler network terminal connection.source →
            (network.bake context compile registry compiler).report.transformed = true ∧
              connection.source = closureNode terminal := by
  rcases bake_leaves context compile registry compiler network with
    ⟨unbound, same⟩ | ⟨surface, trimmed, bound, trims, ⟨plain, same⟩ | ⟨done, adapts⟩⟩
  · rw [same]
    exact ⟨fun _ terminal bound => absurd bound (by simp [unbound]), fun _ => hold⟩
  -- The terminal was not transformed, so nothing is made again that was pruned.
  · rw [same, plain, trims.bindingsHold_iff hold]
    constructor
    · intro safe terminal found slot connection binding discarded
      cases bound.symm.trans found
      exact absurd ((mem_pruned_iff ..).2 discarded) (safe slot connection binding)
    · intro safe slot connection binding gone
      have lost := safe surface bound slot connection binding ((mem_pruned_iff ..).1 gone)
      simp at lost
  -- The terminal was transformed, so the closure is there whether or not it was pruned.
  · rw [done, adapts.bindingsHold_iff]
    have bindings : ∀ slot, trimmed.terminal? slot = network.terminal? slot := fun slot => by
      simp only [Network.terminal?, trims.bindings]
    constructor
    · intro safe terminal found slot connection binding discarded
      cases bound.symm.trans found
      have gone := (mem_pruned_iff ..).2 discarded
      have elsewhere : slot ≠ Network.surfaceTerminal := by
        rintro rfl
        obtain ⟨output, surfaceBinding⟩ := source_of_surfaceNode? registry network bound
        cases binding.symm.trans surfaceBinding
        exact trims.terminal_stays gone
      rcases safe slot connection elsewhere ((bindings slot).trans binding) with
        isClosure | isTerminal | there
      · exact ⟨rfl, isClosure⟩
      · exact absurd (isTerminal ▸ gone) trims.terminal_stays
      · exact absurd gone ((trims.present _).1 there).2
    · intro safe slot connection _ binding
      have before := (bindings slot).symm.trans binding
      by_cases gone : connection.source ∈ pruned context compile registry compiler network surface
      · exact .inl (safe surface bound slot connection before ((mem_pruned_iff ..).1 gone)).2
      · exact .inr (.inr ((trims.present _).2 ⟨hold slot connection before, gone⟩))

end Bake

/-- Bindings that hold before a material is baked hold afterwards exactly if none reads a node that is
discarded, but for the closure of a transformed terminal. Only nodes behind those that the surface node
reads are discarded, and so the binding of the surface always holds. -/
theorem Network.bakeMaterial_bindingsHold_iff {σ : Type} (context : BakeContext) (compile : Compiler σ)
    (registry : Registry) (compiler : σ) (materialPath : String) (network : Network)
    (hold : network.BindingsHold) :
    let entry := if materialPath = "" then network else { network with materialPath }
    let baked := network.bakeMaterial context compile registry compiler materialPath
    (baked.network.BindingsHold ↔
      ∀ terminal, Bake.surfaceNode? registry network = some terminal →
        ∀ slot connection, network.terminal? slot = some connection →
          Bake.Discards context compile registry compiler entry terminal connection.source →
            baked.report.transformed = true ∧ connection.source = closureNode terminal) ∧
    ∀ terminal node, Bake.Discards context compile registry compiler entry terminal node →
      node ≠ terminal ∧ ∃ first, first ≠ node ∧ network.Reads terminal first ∧
        Relation.TransGen network.Reads first node := by
  unfold bakeMaterial
  dsimp only
  -- The material's path is no part of the nodes or the bindings.
  split
  · exact ⟨Bake.bindingsHold_bake_iff context compile registry compiler network hold,
      fun terminal node => Bake.Discards.feeds context compile registry compiler network terminal⟩
  · exact ⟨Bake.bindingsHold_bake_iff context compile registry compiler { network with materialPath } hold,
      fun terminal node =>
        Bake.Discards.feeds context compile registry compiler { network with materialPath } terminal⟩

namespace Bake.Shared

/-- A material whose displacement reads a node that also feeds its surface, through another one. -/
def network : Network where
  materialPath := "/M"
  nodes := Dict.ofList [
    ("/M/a", ⟨"add", Dict.empty, Dict.ofList [("in", ⟨"/M/b", "out"⟩)]⟩),
    ("/M/b", ⟨"add", Dict.empty, Dict.empty⟩),
    ("/M/t", ⟨"surface", Dict.empty, Dict.ofList [("base", ⟨"/M/a", "out"⟩)]⟩)]
  terminals := Dict.ofList [("displacement", ⟨"/M/b", "out"⟩), ("surface", ⟨"/M/t", "out"⟩)]

/-- The definitions of its two types. -/
def registry : Registry where
  entries := [
    { identifier := "add", sourceType := "mtlx", family := "add", role := none
      inputs := [⟨"in", "float", none⟩], outputs := [⟨"out", "float", none⟩]
      metadata := Dict.empty, assetPath := none },
    { identifier := "surface", sourceType := "mtlx", family := "surface", role := none
      inputs := [⟨"base", "float", none⟩], outputs := [⟨"out", "surfaceshader", none⟩]
      metadata := Dict.empty, assetPath := none }]

/-- A compiler that makes the same shader of every source. -/
def compile : Compiler Unit := fun _ _ state =>
  (⟨some ⟨"sum.oso", .ok "shader sum\noparam float out"⟩, []⟩, state)

/-- A run without definition files and search paths. -/
def context : BakeContext where
  library := DefinitionLibrary.empty
  resolver := .below none
  nativeExtension := "tex"
  plugin := "rtx.so"

/-- The source for the node that the surface reads is generated. -/
theorem generate_ok : ∃ source, Shader.generate (routedDocument context registry network "/M/t").document
    context.library.searchPaths (Conversion.shaderNameFor "/M/a") (NodePath.leaf "/M/a")
    (NodePath.parent "/M/a") = .ok source := by
  -- The program is computed by evaluation, and the source is its text.
  obtain ⟨program, result⟩ : ∃ program, Shader.program
      (routedDocument context registry network "/M/t").document context.library.searchPaths
      (Conversion.shaderNameFor "/M/a") (NodePath.leaf "/M/a") (NodePath.parent "/M/a") = .ok program :=
    ok_of_isSome (by cbv)
  exact ⟨program.text, Shader.generate_of_program result⟩

/-- Baking the material deletes the node that its displacement reads, and the displacement still reads it.
-/
theorem displacement_bake :
    ((network.bake context compile registry ()).network.terminal? "displacement").map
      (fun binding => (network.bake context compile registry ()).network.hasNode binding.source)
        = some false := by
  have surface : surfaceNode? registry network = some "/M/t" := by cbv
  have reads : network.inputNames "/M/t" = ["base"] := by decide
  have connected : network.input? "/M/t" "base" = some ⟨"/M/a", "out"⟩ := by decide
  have present : network.hasNode "/M/a" = true := by decide
  have new : Dict.contains (Dict.empty : NameSet) "/M/a" = false := rfl
  obtain ⟨source, generated⟩ := generate_ok
  unfold Network.bake
  simp only [surface, convertInputs, reads, List.cons_ne_nil, if_false]
  -- What the compiler is given does not matter to it, so the document may be any that gives a source.
  generalize routedDocument context registry network "/M/t" = routed at generated
  simp only [Network.convertInputs, reads, Conversion.run, List.foldl, Conversion.step, connected, present,
    new, if_true, if_false, Bool.false_eq_true, Conversion.compileNode, generated]
  cbv

/-- The displacement of the material reads a node that is discarded, and its binding does not hold any
more. -/
theorem displacement_lost :
    network.BindingsHold ∧
    ¬(network.bakeMaterial context compile registry () "").network.BindingsHold ∧
    ∃ slot connection, network.terminal? slot = some connection ∧
      Discards context compile registry () network "/M/t" connection.source := by
  have hold : network.BindingsHold := by
    intro slot connection binding
    have listed := Dict.mem_entries_iff.2 binding
    have entries : network.terminals.entries =
        [("displacement", ⟨"/M/b", "out"⟩), ("surface", ⟨"/M/t", "out"⟩)] := by decide
    rw [entries] at listed
    simp only [List.mem_cons, Prod.mk.injEq, List.not_mem_nil, or_false] at listed
    rcases listed with ⟨_, rfl⟩ | ⟨_, rfl⟩
    · decide
    · decide
  -- The displacement is bound to a node that is gone.
  have lost : ¬(network.bakeMaterial context compile registry () "").network.BindingsHold := by
    intro after
    obtain ⟨binding, bound, gone⟩ := Option.map_eq_some_iff.1 displacement_bake
    exact absurd (after "displacement" binding bound) (by simp [Network.bakeMaterial, gone])
  refine ⟨hold, lost, Classical.byContradiction fun nothing => ?_⟩
  have characterised := Network.bakeMaterial_bindingsHold_iff context compile registry () "" network hold
  -- Were nothing discarded that a slot reads, the bindings would hold.
  refine lost (characterised.1.2 fun terminal found slot connection binding discarded => ?_)
  have surface : surfaceNode? registry network = some "/M/t" := by cbv
  cases surface.symm.trans found
  exact absurd ⟨slot, connection, binding, discarded⟩ nothing

end Bake.Shared

end ShadeBake

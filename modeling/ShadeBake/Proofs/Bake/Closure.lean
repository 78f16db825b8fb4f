import ShadeBake.Proofs.Network.Update
import ShadeBake.Terminal

/-! Transforming a terminal adds a closure that reads the terminal, and makes up no other connection. -/

namespace ShadeBake

namespace Surface

/-- The adapters have types that are not empty. -/
theorem adapter_ne_empty (surface : Surface) : surface.adapter ≠ "" := by
  -- Each of the two surfaces has an adapter with a name.
  cases surface with
  | standard => decide
  | preview => decide

end Surface

namespace Network

variable (network : Network) (terminal : String)

/-- Renaming a parameter leaves all as it is, or takes the parameter away, whose value is set under another name before
that if it has one. -/
theorem renameParameter_cases (node name : String) :
    network.renameParameter node name = network ∨
    network.renameParameter node name = network.deleteParameter node name ∨
    ∃ renamed value, network.parameter? node name = some value ∧
      network.renameParameter node name = (network.setParameter node renamed value).deleteParameter node name := by
  -- The name is not reserved, or nothing is authored under it, or its value moves.
  unfold renameParameter
  split
  · exact .inl rfl
  · rename_i renamed _
    split
    · rename_i value held
      exact .inr (.inr ⟨renamed, value, held, rfl⟩)
    · exact .inr (.inl rfl)

/-- What every renaming of one parameter keeps is kept when all parameters of a terminal are renamed. -/
theorem renameParameters_induction (holds : Network → Prop) {node : String}
    (keeps : ∀ network name, holds network → holds (network.renameParameter node name)) (surface : Surface)
    {network : Network} (start : holds network) : holds (network.renameParameters surface node) := by
  unfold renameParameters
  cases surface with
  | standard =>
    simp only
    -- The names to change are those on entry, whatever the changes so far.
    generalize network.parameterNames node = names
    induction names generalizing network with
    | nil => exact start
    | cons name rest ih => exact ih (keeps network name start)
  | preview => exact start

/-- Renaming a parameter changes parameters only. -/
theorem alike_renameParameter (node name : String) :
    Alike network (network.renameParameter node name) := by
  -- Parameters are set and taken away, which changes nothing else.
  rcases network.renameParameter_cases node name with same | deleted | ⟨renamed, value, _, moved⟩
  · rw [same]
    exact Alike.refl network
  · rw [deleted]
    exact alike_deleteParameter network node name
  · rw [moved]
    exact (alike_setParameter network node _ _).trans (alike_deleteParameter _ node name)

/-- Renaming the parameters of a terminal changes parameters only. -/
theorem alike_renameParameters (surface : Surface) (node : String) :
    Alike network (network.renameParameters surface node) :=
  -- Changes of parameters one after the other are such a change.
  renameParameters_induction (Alike network)
    (fun other name alike => alike.trans (alike_renameParameter other node name)) surface (Alike.refl network)

/-- Renaming the parameters of a node leaves the records of all others. -/
theorem get?_renameParameters_of_ne (surface : Surface) {node other : String} (apart : other ≠ node) :
    (network.renameParameters surface node).nodes.get? other = network.nodes.get? other := by
  refine renameParameters_induction (fun after => after.nodes.get? other = network.nodes.get? other)
    (fun after name same => ?_) surface rfl
  rw [← same]
  -- Each name is set or deleted at the one node.
  rcases after.renameParameter_cases node name with idle | deleted | ⟨renamed, value, _, moved⟩
  · rw [idle]
  · rw [deleted]
    exact get?_modifyNode_of_ne _ _ apart
  · rw [moved]
    exact (get?_modifyNode_of_ne _ _ apart).trans (get?_modifyNode_of_ne _ _ apart)

/-- Connecting inputs of the closure changes connections only, and the closure reads nothing but what it
read and the terminal. -/
theorem connectClosure_foldl (adapter : ShaderEntry) (names : List String) :
    Reconnected network (names.foldl (connectClosure adapter terminal) network) ∧
    ∀ node name connection,
      (names.foldl (connectClosure adapter terminal) network).input? node name = some connection →
        (node = closureNode terminal ∧ connection.source = terminal) ∨
          network.input? node name = some connection := by
  induction names generalizing network with
  | nil => exact ⟨Reconnected.refl network, fun _ _ _ connected => .inr connected⟩
  | cons head rest ih =>
    obtain ⟨reconnected, inputs⟩ := ih (connectClosure adapter terminal network head)
    rw [List.foldl_cons]
    unfold connectClosure at reconnected inputs ⊢
    by_cases output : adapter.hasOutput (head ++ "Out") = true
    · simp only [output, if_true] at reconnected inputs ⊢
      refine ⟨(reconnected_setInput network _ _ _).trans reconnected,
        fun node name connection connected => ?_⟩
      rcases inputs node name connection connected with closure | before
      · exact .inl closure
      -- The input connected first is the closure's and reads the terminal.
      · rw [input?_setInput] at before
        split at before
        · rename_i here
          simp only [Option.some.injEq] at before
          exact .inl ⟨here.1.symm, before ▸ rfl⟩
        · exact .inr before
    -- An output that the adapter lacks is not connected.
    · simp only [output, if_false, Bool.false_eq_true] at reconnected inputs ⊢
      exact ⟨reconnected, inputs⟩

/-- Connecting inputs of the closure leaves the records of all other nodes. -/
theorem get?_connectClosure_foldl_of_ne (adapter : ShaderEntry) (names : List String) {node : String}
    (apart : node ≠ closureNode terminal) :
    (names.foldl (connectClosure adapter terminal) network).nodes.get? node = network.nodes.get? node := by
  -- Each step changes the closure's own record or nothing.
  induction names generalizing network with
  | nil => rfl
  | cons name rest ih =>
    refine (ih _).trans ?_
    unfold connectClosure
    split
    · exact get?_modifyNode_of_ne network _ apart
    · rfl

/-- What adapting a terminal leaves: the terminal and its closure exist and all else is as before,
connections are as before but for what the closure reads of the terminal, and the surface is bound to the
closure. -/
structure Adapted (network : Network) (terminal : String) (adapted : Network) : Prop where
  present : ∀ node, adapted.hasNode node = true ↔
    node = closureNode terminal ∨ node = terminal ∨ network.hasNode node = true
  records : ∀ node, node ∈ adapted.nodeNames ↔
    node = closureNode terminal ∨ node = terminal ∨ node ∈ network.nodeNames
  inputs : ∀ node name connection, adapted.input? node name = some connection →
    (node = closureNode terminal ∧ connection.source = terminal) ∨
      network.input? node name = some connection
  bindings : ∀ slot, adapted.terminal? slot =
    if slot = surfaceTerminal then some ⟨closureNode terminal, ""⟩ else network.terminal? slot

/-- Adapting a terminal does just that. -/
theorem adapted_adapt (surface : Surface) (adapter closure : ShaderEntry) :
    Adapted network terminal (network.adapt terminal surface adapter closure) := by
  unfold adapt
  dsimp only
  -- First the parameters are renamed, then the closure is connected; each stage is known by its laws alone.
  have renamed := alike_renameParameters (network.setType terminal surface.adapter) surface terminal
  generalize (network.setType terminal surface.adapter).renameParameters surface terminal = retyped
    at renamed ⊢
  obtain ⟨reconnected, inputs⟩ := connectClosure_foldl
    (retyped.setType (closureNode terminal) closureNodeType) terminal adapter closure.inputNames
  generalize closure.inputNames.foldl (connectClosure adapter terminal)
    (retyped.setType (closureNode terminal) closureNodeType) = connected at reconnected inputs ⊢
  constructor
  · intro node
    have typed : (connected.setTerminal surfaceTerminal ⟨closureNode terminal, ""⟩).typeOf node =
        connected.typeOf node := rfl
    rw [hasNode_iff, hasNode_iff, typed, reconnected.types, typeOf_setType, renamed.types, typeOf_setType]
    -- The closure and the terminal get types, and no other node changes its own.
    by_cases isClosure : closureNode terminal = node
    · simp [isClosure, closureNodeType]
    · by_cases isTerminal : terminal = node
      · subst isTerminal
        simp [isClosure, surface.adapter_ne_empty]
      · simp [isClosure, isTerminal, Ne.symm isClosure, Ne.symm isTerminal]
  · intro node
    have same : node ∈ (connected.setTerminal surfaceTerminal ⟨closureNode terminal, ""⟩).nodeNames ↔
        node ∈ connected.nodeNames := Iff.rfl
    rw [same, reconnected.records, mem_nodeNames_setType, renamed.records, mem_nodeNames_setType,
      eq_comm (a := closureNode terminal), eq_comm (a := terminal)]
  · intro node name connection read
    refine (inputs node name connection read).imp_right fun before => ?_
    rwa [input?_setType, renamed.inputs, input?_setType] at before
  · intro slot
    -- Only the surface is bound anew, after all else was done.
    have bound : (connected.setTerminal surfaceTerminal ⟨closureNode terminal, ""⟩).terminal? slot =
        if surfaceTerminal = slot then some ⟨closureNode terminal, ""⟩ else connected.terminal? slot :=
      Dict.get?_insert connected.terminals surfaceTerminal slot _
    have unchanged : connected.terminals = network.terminals := reconnected.bindings.trans renamed.bindings
    rw [bound]
    simp only [terminal?, unchanged, eq_comm (a := slot)]

section adapt

variable (surface : Surface) (adapter closure : ShaderEntry)

/-- Adapting a terminal leaves the records of all nodes but the terminal and its closure. -/
theorem get?_adapt {node : String} (other : node ≠ terminal) (apart : node ≠ closureNode terminal) :
    (network.adapt terminal surface adapter closure).nodes.get? node = network.nodes.get? node := by
  -- The changes are to the terminal, and after that to the closure only.
  refine (get?_connectClosure_foldl_of_ne _ terminal adapter closure.inputNames apart).trans ?_
  rw [get?_setType, if_neg (Ne.symm apart), get?_renameParameters_of_ne _ surface other, get?_setType,
    if_neg (Ne.symm other)]

/-- Adapting a terminal gives its closure and the terminal their types, and leaves all others. -/
theorem typeOf_adapt (node : String) :
    (network.adapt terminal surface adapter closure).typeOf node =
      if closureNode terminal = node then closureNodeType
      else if terminal = node then surface.adapter else network.typeOf node := by
  -- Types are set for the terminal first and then for the closure, and nothing in between sets one.
  have renamed := alike_renameParameters (network.setType terminal surface.adapter) surface terminal
  refine ((connectClosure_foldl _ terminal adapter closure.inputNames).1.types node).trans ?_
  rw [typeOf_setType, renamed.types, typeOf_setType]

/-- The closure of a terminal is another node. -/
theorem ne_closureNode : terminal ≠ closureNode terminal := by
  -- The name of the closure is longer.
  intro same
  have lengths := congrArg String.length same
  have longer : "_".length ≠ 0 := by decide
  simp only [closureNode, closureNodeType, String.length_append] at lengths
  omega

/-- Adapting a terminal leaves its connections. -/
theorem input?_adapt (slot : String) :
    (network.adapt terminal surface adapter closure).input? terminal slot =
      network.input? terminal slot := by
  have renamed := alike_renameParameters (network.setType terminal surface.adapter) surface terminal
  have same := get?_connectClosure_foldl_of_ne
    (((network.setType terminal surface.adapter).renameParameters surface terminal).setType
      (closureNode terminal) closureNodeType) terminal adapter closure.inputNames (ne_closureNode terminal)
  -- The closure is connected last, at another node.
  have inputs : (network.adapt terminal surface adapter closure).input? terminal slot =
      (((network.setType terminal surface.adapter).renameParameters surface terminal).setType
        (closureNode terminal) closureNodeType).input? terminal slot := congrArg
    (fun record : Option Node => record.bind (·.inputs.get? slot)) same
  rw [inputs, input?_setType, renamed.inputs, input?_setType]

end adapt

/-- A terminal is transformed by adapting it as the surface that its type is. -/
theorem eq_adapt_of_transformTerminal {registry : Registry} {network transformed : Network}
    {terminal : String} (done : network.transformTerminal registry terminal = .ok transformed) :
    ∃ surface adapter closure, Surface.ofNodeType (network.typeOf terminal) = .ok surface ∧
      transformed = network.adapt terminal surface adapter closure := by
  -- Of all the ways through, only the last gives a network.
  unfold transformTerminal at done
  split at done
  · simp at done
  · rename_i surface typed
    split at done
    · simp at done
    · split at done
      · simp at done
      · simp only [Except.ok.injEq] at done
        exact ⟨surface, _, _, typed, done.symm⟩

/-- A transformed terminal is an adapted one. -/
theorem adapted_of_transformTerminal {registry : Registry} {network transformed : Network}
    {terminal : String} (done : network.transformTerminal registry terminal = .ok transformed) :
    Adapted network terminal transformed := by
  -- A successful transformation is the one that adapts the terminal.
  obtain ⟨surface, adapter, closure, _, rfl⟩ := eq_adapt_of_transformTerminal done
  exact adapted_adapt network terminal surface adapter closure

end Network

end ShadeBake

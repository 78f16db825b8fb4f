import ShadeBake.Proofs.Bake.Run

/-! A run leaves no input that reads a missing node, unless the same node read the same missing node
before. -/

namespace ShadeBake

namespace Network

/-- A node dangles from a missing one when one of its inputs reads that, and it does not exist. -/
def DanglesFrom (network : Network) (node missing : String) : Prop :=
  network.hasNode missing = false ∧ ∃ name output, network.input? node name = some ⟨missing, output⟩

variable {origin network adapted : Network} {terminal : String} {pruned : List String}

/-- Trimming a network leaves nothing dangling that did not dangle before. -/
theorem Trimmed.danglesFrom (trimmed : Trimmed origin terminal pruned network) {node missing : String}
    (dangles : network.DanglesFrom node missing) : origin.DanglesFrom node missing := by
  obtain ⟨absent, name, output, connected⟩ := dangles
  obtain ⟨stays, earlier, original⟩ := trimmed.inputs node name _ connected
  refine ⟨?_, earlier, output, original⟩
  -- Were it there on entry, it would still be, since what is read is not pruned.
  cases before : origin.hasNode missing with
  | false => rfl
  | true =>
    have present := (trimmed.present missing).2 ⟨before, stays⟩
    rw [absent] at present
    simp at present

/-- Adapting a terminal leaves nothing dangling that did not dangle before. -/
theorem Adapted.danglesFrom (adapts : Adapted network terminal adapted) {node missing : String}
    (dangles : adapted.DanglesFrom node missing) : network.DanglesFrom node missing := by
  obtain ⟨absent, name, output, connected⟩ := dangles
  have gone : ¬(missing = closureNode terminal ∨ missing = terminal ∨ network.hasNode missing = true) :=
    fun there => by simp [(adapts.present missing).2 there] at absent
  simp only [not_or] at gone
  -- The closure reads the terminal only, which exists.
  rcases adapts.inputs node name _ connected with closure | before
  · exact absurd closure.2 gone.2.1
  · exact ⟨by simpa using gone.2.2, name, output, before⟩

end Network

namespace Bake

variable {σ : Type} (context : BakeContext) (compile : Compiler σ) (registry : Registry) (compiler : σ)
  (network : Network)

/-- No node dangles after a run that did not dangle before. -/
theorem danglesFrom_of_bake {node missing : String}
    (dangles : (network.bake context compile registry compiler).network.DanglesFrom node missing) :
    network.DanglesFrom node missing := by
  -- Neither trimming nor adapting makes a node dangle.
  rcases bake_leaves context compile registry compiler network with
    ⟨_, same⟩ | ⟨terminal, trimmed, _, trims, ⟨_, same⟩ | ⟨_, adapts⟩⟩
  · rw [same] at dangles
    exact dangles
  · exact trims.danglesFrom (same ▸ dangles)
  · exact trims.danglesFrom (adapts.danglesFrom dangles)

/-- No input reads a node that a run deleted. -/
theorem source_ne_of_bake {deleted : String} (before : deleted ∈ network.nodeNames)
    (after : deleted ∉ (network.bake context compile registry compiler).network.nodeNames)
    {node name : String} {connection : Connection}
    (connected : (network.bake context compile registry compiler).network.input? node name
      = some connection) : connection.source ≠ deleted := by
  rintro rfl
  rcases bake_leaves context compile registry compiler network with
    ⟨_, same⟩ | ⟨terminal, trimmed, _, trims, ⟨_, same⟩ | ⟨_, adapts⟩⟩
  · rw [same] at after
    exact after before
  -- What is deleted was pruned, and nothing reads what was pruned.
  · rw [same] at after connected
    exact after ((trims.records _).2 ⟨before, (trims.inputs node name connection connected).1⟩)
  · have gone : connection.source ∉ trimmed.nodeNames :=
      fun there => after ((adapts.records _).2 (.inr (.inr there)))
    rcases adapts.inputs node name connection connected with closure | read
    -- The closure reads the terminal, which was not pruned.
    · exact gone ((trims.records _).2 ⟨before, closure.2 ▸ trims.terminal_stays⟩)
    · exact gone ((trims.records _).2 ⟨before, (trims.inputs node name connection read).1⟩)

end Bake

/-- Baking a material leaves no node dangling that did not dangle from the same missing node before. In
particular no input reads a node that was deleted. -/
theorem Network.bakeMaterial_dangling {σ : Type} (context : BakeContext) (compile : Compiler σ)
    (registry : Registry) (compiler : σ) (materialPath : String) (network : Network) :
    let baked := (network.bakeMaterial context compile registry compiler materialPath).network
    (∀ node missing, baked.DanglesFrom node missing → network.DanglesFrom node missing) ∧
    ∀ deleted ∈ network.nodeNames, deleted ∉ baked.nodeNames →
      ∀ node name connection, baked.input? node name = some connection → connection.source ≠ deleted := by
  -- The material's path is no part of what the nodes read.
  unfold bakeMaterial
  split
  · exact ⟨fun _ _ => Bake.danglesFrom_of_bake context compile registry compiler network,
      fun _ before after _ _ _ =>
        Bake.source_ne_of_bake context compile registry compiler network before after⟩
  · exact ⟨fun _ _ =>
        Bake.danglesFrom_of_bake context compile registry compiler { network with materialPath },
      fun _ before after _ _ _ =>
        Bake.source_ne_of_bake context compile registry compiler { network with materialPath }
          before after⟩

end ShadeBake

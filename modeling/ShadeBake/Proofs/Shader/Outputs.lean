import ShadeBake.Proofs.Document.Resolve
import ShadeBake.Proofs.Shader.Fidelity
import ShadeBake.Proofs.Shader.Order

/-! Which output of its source a connected input of a built document reads. A connection that names the default
output is stored as one that names none, so that it reads the first declared output of a source that declares none
of that name. All other names are kept, and must be declared for a program to be emitted. -/

namespace ShadeBake

open Document (Graph Node Signature nodeFor)

namespace Document

/-- The output that is read where one is named: that one if it is declared, and otherwise the first. -/
def Signature.readOutput (signature : Signature) (name : String) : String :=
  if name ∈ signature.outputs.map (·.name) then name
  else (signature.outputs.map (·.name)).headD defaultOutputName

/-- The outputs of a node with a signature have the declared names, or there is one with the default name if none
is declared. -/
theorem Node.names_outputPlugs {node : Node} {signature : Signature} (declared : node.signature = some signature) :
    node.outputPlugs.map (·.name) =
      if signature.outputs = [] then [defaultOutputName] else signature.outputs.map (·.name) := by
  -- Without declared outputs there is the node's own one.
  simp only [outputPlugs, declared]
  split
  · rfl
  · rfl

/-- The output that is read by default is the one that is read where the default name is given. -/
theorem Node.name_defaultOutput {node : Node} {signature : Signature}
    (declared : node.signature = some signature) :
    node.defaultOutput.name = signature.readOutput defaultOutputName := by
  -- The output with the default name is read if there is one, and otherwise the first.
  have names := names_outputPlugs declared
  unfold defaultOutput Signature.readOutput
  cases found : node.outputPlugs.find? (·.name = defaultOutputName) with
  | some plug =>
    have name : plug.name = defaultOutputName := by simpa using List.find?_some found
    have listed := List.mem_map_of_mem (f := (·.name)) (List.mem_of_find?_eq_some found)
    rw [Option.getD_some, name]
    rw [names, name] at listed
    -- Without declared outputs the node's own one has the default name as well.
    split at listed
    · rename_i none
      simp [none]
    · rw [if_pos listed]
  | none =>
    have other : defaultOutputName ∉ node.outputPlugs.map (·.name) := by
      intro listed
      obtain ⟨plug, inside, name⟩ := List.mem_map.1 listed
      simpa [name] using List.find?_eq_none.1 found plug inside
    rw [names] at other
    split at other
    · simp at other
    · rename_i some
      rw [if_neg other, Option.getD_none]
      simp only [outputPlugs, declared, if_neg some]
      cases outputs : signature.outputs with
      | nil => exact absurd outputs some
      | cons first rest => rfl

/-- What a node of an order of evaluation reads in the graph is in the order too. -/
theorem Graph.source_mem_evaluationOrder {graph : Graph} {root node feeding : Node} {order : List Node}
    {source : String} (evaluates : graph.evaluationOrder root = .ok order) (inside : node ∈ order)
    (reads : source ∈ node.sources) (found : graph.node? source = some feeding) : feeding ∈ order := by
  -- The order is that of all that feeds the root, with the root behind it.
  obtain ⟨_, _, work⟩ := ok_of_bind evaluates
  obtain ⟨computed, sources, done⟩ := ok_of_bind work
  simp only [pure, Except.pure, Except.ok.injEq] at done
  subst done
  obtain ⟨ordered, _, listed⟩ := compute_ok sources .nil
  -- Whatever reads it, the source was computed before.
  have before : source ∈ computed.map (·.name) := by
    rcases List.mem_append.1 inside with earlier | last
    · obtain ⟨front, back, split⟩ := List.append_of_mem earlier
      have fed := ordered.fed split source reads
      rw [split, List.map_append]
      exact List.mem_append_left _ fed
    · obtain rfl := List.mem_singleton.1 last
      exact listed source reads
  obtain ⟨other, member, rfl⟩ := List.mem_map.1 before
  cases (ordered.node?_eq member).symm.trans found
  exact List.mem_append_left _ member

end Document

namespace Shader

variable {vocabulary : Vocabulary} {network : Network} {options : EmitOptions} {graph : Graph} {path name : String}
  {connection : Connection} {signature : Signature}

/-- The argument for an input whose connection names an output is the variable of the output that is read there. The
name must be declared, or the default one. -/
theorem argument_of_named {declared : String} {default : Option Literal} {passed : Argument}
    (connected : network.input? path name = some connection)
    (present : network.hasNode connection.source = true) (named : connection.output ≠ "")
    (resolves : graph.node? (NodePath.leaf connection.source) = some (nodeFor vocabulary network connection.source))
    (declares : (nodeFor vocabulary network connection.source).signature = some signature)
    (passes : argument options graph (nodeFor vocabulary network path) name declared default = .ok passed) :
    passed = oriented options (nodeFor vocabulary network path) name (.read
        ((nodeFor vocabulary network connection.source).outputVariable (signature.readOutput connection.output))) ∧
      (connection.output ∈ signature.outputs.map (·.name) ∨ connection.output = defaultOutputName) := by
  have input := Document.input?_nodeFor vocabulary network path connected present
  obtain ⟨feeding, there, plug, inside, reads, rfl⟩ := argument_of_connected input rfl passes
  cases resolves.symm.trans there
  have listed := List.mem_map_of_mem (f := (·.name)) inside
  simp only [Document.connectedInput, named, decide_false, Bool.false_or, decide_eq_true_eq] at reads
  rw [Node.names_outputPlugs declares] at listed
  by_cases default : connection.output = defaultOutputName
  -- The name was dropped, so whatever is read by default is read.
  · rw [if_pos default, Option.getD_none, Node.name_defaultOutput declares, ← default] at reads
    exact ⟨by rw [reads], .inr default⟩
  -- The name was kept, so the source has such an output, which is a declared one.
  · rw [if_neg default, Option.getD_some] at reads
    split at listed
    · exact absurd (reads.symm.trans (List.mem_singleton.1 listed)) default
    · rw [reads] at listed
      exact ⟨by rw [reads, Signature.readOutput, if_pos listed], .inl listed⟩

end Shader

/-- A call for a network node passes a variable at an input when that is the argument wherever the input is declared.
-/
def Call.Passes (vocabulary : Vocabulary) (network : Network) (options : EmitOptions) (path name : String)
    (v : Variable) (call : Call) : Prop :=
  List.Forall₂ (fun input argument => input = name →
      argument = Shader.oriented options (nodeFor vocabulary network path) name (.read v))
    (vocabulary.describe (network.typeOf path)).inputOrder call.passed

namespace Shader

variable {vocabulary : Vocabulary} {network : Network} {options : EmitOptions} {graph : Graph} {path name : String}
  {connection : Connection}

/-- A call for the node of a path passes the variable of the output that is read at an input whose connection names
one. -/
theorem Serves.passes_named {call : Call} {signature : Signature}
    (connected : network.input? path name = some connection)
    (present : network.hasNode connection.source = true) (named : connection.output ≠ "")
    (resolves : graph.node? (NodePath.leaf connection.source) = some (nodeFor vocabulary network connection.source))
    (declares : (nodeFor vocabulary network connection.source).signature = some signature)
    (serves : Serves options graph (nodeFor vocabulary network path) call) :
    call.Passes vocabulary network options path name
        ((nodeFor vocabulary network connection.source).outputVariable (signature.readOutput connection.output)) ∧
      (name ∈ (vocabulary.describe (network.typeOf path)).inputOrder →
        connection.output ∈ signature.outputs.map (·.name) ∨ connection.output = defaultOutputName) := by
  -- Each argument is looked at for the declared input that it is passed for.
  have passed := serves.passed_nodeFor
  refine ⟨passed.imp fun input argument passes same => ?_, fun listed => ?_⟩
  · exact (argument_of_named connected present named resolves declares (same ▸ passes)).1
  · obtain ⟨argument, _, passes⟩ := exists_of_forall₂ passed.flip listed
    exact (argument_of_named connected present named resolves declares passes).2

end Shader

/-- Which output of its source a program reads at a declared input whose connection names one, where the source is
in the graph of the reader. In every program for a root that draws on the reader, the argument is the variable of
the named output if the source declares it. If the source does not declare it, no program is emitted unless the name
is the default one: that is not kept in the document, so the first declared output is read. -/
theorem Document.emit_reads_output (vocabulary : Vocabulary) (network : Network) (terminal : String)
    (names : List String) {path : String} (reached : DocumentBuilder.Reached network terminal names path)
    {name : String} {connection : Connection} (connected : network.input? path name = some connection)
    (present : network.hasNode connection.source = true) (named : connection.output ≠ "")
    (listed : name ∈ (vocabulary.describe (network.typeOf path)).inputOrder) :
    let node := nodeFor vocabulary network path
    let source := nodeFor vocabulary network connection.source
    let outputs := (vocabulary.describe (network.typeOf connection.source)).outputs.map (·.name)
    ∃ graph, (build vocabulary network terminal names).graphOf? (NodePath.materialName network.materialPath) path =
        some graph ∧ node ∈ graph.nodes ∧
      ∀ options shader root program order, graph.node? source.name = some source →
        Shader.emit options shader graph root = .ok program → graph.evaluationOrder root = .ok order →
        node ∈ order →
          let passes := fun output => List.Forall₂ (fun computed call => computed = node →
            call.Passes vocabulary network options path name (source.outputVariable output)) order program.calls
          connection.output ∈ outputs ∧ passes connection.output ∨
            connection.output ∉ outputs ∧ connection.output = defaultOutputName ∧
              passes (outputs.headD defaultOutputName) := by
  intro node source outputs
  obtain ⟨holds, _, visits⟩ := build_holds vocabulary network terminal names
  obtain ⟨graph, there, inside, _⟩ := node?_graphOf holds ((visits path).2 reached) source.name
  refine ⟨graph, there, inside, fun options shader root program order resolves emits evaluates computed => ?_⟩
  rw [name_nodeFor] at resolves
  obtain ⟨_, evaluates', serves⟩ := Shader.emit_calls emits
  cases evaluates'.symm.trans evaluates
  -- The source is computed as well, so it is defined.
  have reads : NodePath.leaf connection.source ∈ node.sources :=
    (mem_sources_nodeFor_iff vocabulary network path).2
      ⟨connection.source, ⟨present, name, connection, connected, rfl⟩, rfl⟩
  have fed := Graph.source_mem_evaluationOrder evaluates computed reads resolves
  obtain ⟨_, _, feeding⟩ := exists_of_forall₂ serves.flip fed
  have defined : (vocabulary.describe (network.typeOf connection.source)).category ≠ "" := by
    simpa [source] using feeding.defined
  obtain ⟨signature, declares, same⟩ : ∃ signature, source.signature = some signature ∧
      signature.outputs.map (·.name) = outputs :=
    ⟨_, (signature_nodeFor ..).trans (if_neg defined), rfl⟩
  obtain ⟨_, _, serving⟩ := exists_of_forall₂ serves.flip computed
  -- The input is declared, so an argument is made for it, which fails for any other undeclared name.
  have declared := (serving.passes_named connected present named resolves declares).2 listed
  have passes : List.Forall₂ (fun computed call => computed = node → call.Passes vocabulary network options path name
      (source.outputVariable (signature.readOutput connection.output))) order program.calls :=
    serves.imp fun computed call serves isNode =>
      ((isNode ▸ serves).passes_named connected present named resolves declares).1
  rw [same] at declared
  rw [Signature.readOutput, same] at passes
  by_cases there : connection.output ∈ outputs
  · rw [if_pos there] at passes
    exact .inl ⟨there, passes⟩
  · rw [if_neg there] at passes
    exact .inr ⟨there, declared.resolve_left there, passes⟩

namespace Shader.Separated

/-- A material whose base is computed from a separation, of which it reads an output with the default name. -/
def network : Network where
  materialPath := "/M"
  nodes := Dict.ofList [
    ("/M/g/a", ⟨"absval", Dict.empty, Dict.ofList [("in", ⟨"/M/g/s", "out"⟩)]⟩),
    ("/M/g/s", ⟨"separate", Dict.empty, Dict.empty⟩),
    ("/M/t", ⟨"surface", Dict.empty, Dict.ofList [("base", ⟨"/M/g/a", "out"⟩)]⟩)]
  terminals := Dict.empty

/-- Definitions of both nodes, where separations have no output of the default name. -/
def vocabulary : Vocabulary where
  registry := { entries := [
    { identifier := "absval", sourceType := "mtlx", family := "absval", role := none
      inputs := [⟨"in", "float", none⟩], outputs := [⟨"out", "float", none⟩]
      metadata := Dict.empty, assetPath := none },
    { identifier := "separate", sourceType := "mtlx", family := "separate", role := none
      inputs := [], outputs := [⟨"outr", "float", none⟩, ⟨"outg", "float", none⟩]
      metadata := Dict.empty, assetPath := none }] }
  library := DefinitionLibrary.empty

/-- The node for the separation. -/
def separation : Node where
  name := "s"
  category := "separate"
  type := "float"
  definition := some "separate"
  signature := some ⟨[], [⟨"outr", "float", none⟩, ⟨"outg", "float", none⟩]⟩

/-- The node that reads it. -/
def reader : Node where
  name := "a"
  category := "absval"
  type := "float"
  definition := some "absval"
  inputs := [{ name := "in", type := "float", node := some "s" }]
  signature := some ⟨[⟨"in", "float", none⟩], [⟨"out", "float", none⟩]⟩

/-- The graph of the two. -/
def graph : Graph where
  name := "g"
  nodes := [reader, separation]
  outputs := [⟨"base_output", "float", "a", some "out"⟩]

/-- The reader's node is built as given. -/
theorem nodeFor_reader : nodeFor vocabulary network "/M/g/a" = reader := by
  -- The description of the node is computed from the two definitions.
  cbv

/-- The separation's node is built as given. -/
theorem nodeFor_separation : nodeFor vocabulary network "/M/g/s" = separation := by
  -- The description of the node is computed from the two definitions.
  cbv

/-- The reader is built into that graph. -/
theorem graphOf_reader : (Document.build vocabulary network "/M/t" ["base"]).graphOf? "M" "/M/g/a" = some graph := by
  -- What is visited is computed first, and the builder then runs on a list.
  have visits : network.visit [] ["/M/g/a"] = ["/M/g/a", "/M/g/s"] := by cbv
  have base : network.input? "/M/t" "base" = some ⟨"/M/g/a", "out"⟩ := by decide
  have there : network.hasNode "/M/g/a" = true := by decide
  have plain : (vocabulary.describe (network.typeOf "/M/g/a")).isTexture = false := by decide
  have plain' : (vocabulary.describe (network.typeOf "/M/g/s")).isTexture = false := by decide
  simp only [BuiltDocument.graphOf?, Document.build, List.foldl_cons, List.foldl_nil, DocumentBuilder.addConnection,
    base, there, if_true, visits, List.length_nil, List.drop_zero, BuiltDocument.addNode, nodeFor_reader,
    nodeFor_separation, plain, plain']
  cbv

/-- The program for the reader. -/
def program : Program where
  name := "aShader"
  node := "a"
  graph := "g"
  category := "absval"
  searchPaths := []
  type := .float
  body := [
    .declare .float ⟨"s", "outr"⟩,
    .declare .float ⟨"s", "outg"⟩,
    .call "separate_float" [] [⟨"s", "outr"⟩, ⟨"s", "outg"⟩],
    .declare .float ⟨"a", "out"⟩,
    .call "absval_float" [.read ⟨"s", "outr"⟩] [⟨"a", "out"⟩],
    .result ⟨"a", "out"⟩]

/-- The separation declares no output with the default name. A program for the reader is emitted all the same, and
the reader's call passes the first output. -/
theorem reads_first :
    DocumentBuilder.Reached network "/M/t" ["base"] "/M/g/a" ∧
    network.input? "/M/g/a" "in" = some ⟨"/M/g/s", "out"⟩ ∧
    "out" ∉ (vocabulary.describe (network.typeOf "/M/g/s")).outputs.map (·.name) ∧
    (Document.build vocabulary network "/M/t" ["base"]).graphOf? "M" "/M/g/a" = some graph ∧
    graph.node? "s" = some (nodeFor vocabulary network "/M/g/s") ∧
    emit {} "aShader" graph (nodeFor vocabulary network "/M/g/a") = .ok program ∧
    List.Forall₂ (fun node call => node = nodeFor vocabulary network "/M/g/a" →
      call.Passes vocabulary network {} "/M/g/a" "in" ⟨"s", "outr"⟩) [separation, reader] program.calls := by
  have reached : DocumentBuilder.Reached network "/M/t" ["base"] "/M/g/a" :=
    ⟨"base", List.mem_cons_self, ⟨"/M/g/a", "out"⟩, by decide, by decide, .refl⟩
  have other : "out" ∉ (vocabulary.describe (network.typeOf "/M/g/s")).outputs.map (·.name) := by decide
  have evaluates : graph.evaluationOrder reader = .ok [separation, reader] := by cbv
  have emits : emit {} "aShader" graph reader = .ok program := by cbv
  obtain ⟨_, same, _, reads⟩ := Document.emit_reads_output vocabulary network "/M/t" ["base"] reached
    (by decide : network.input? "/M/g/a" "in" = some ⟨"/M/g/s", "out"⟩) (by decide) (by decide) (by decide)
  have material : NodePath.materialName network.materialPath = "M" := by decide
  cases graphOf_reader.symm.trans (material ▸ same)
  rw [nodeFor_reader, nodeFor_separation] at reads
  have passes := reads {} "aShader" reader program _ rfl emits evaluates (by decide)
  -- What is named is not declared, so the first output is read.
  exact ⟨reached, by decide, other, graphOf_reader, nodeFor_separation ▸ rfl, nodeFor_reader ▸ emits,
    nodeFor_reader ▸ (passes.resolve_left fun declared => other declared.1).2.2⟩

end Shader.Separated

end ShadeBake

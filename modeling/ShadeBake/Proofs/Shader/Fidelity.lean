import Mathlib
import ShadeBake.Proofs.Document.Mirror
import ShadeBake.Proofs.Shader.Source
import ShadeBake.Shader.Generate

/-! Generated shaders are faithful to the network: they call what the node draws on, each node once and
after all that it reads, with the variables that its connections read. So does the source that they are written as,
line by line, where the functions have words for names. A name that is none can write further calls. -/

namespace ShadeBake

open Document (Graph Node Mirrors nodeFor graphKey)
open DocumentBuilder (Reached)

/-- The variable that a connection reads: that of the output it names, or of the source's default output
if it names none or the one with the default name. -/
def Connection.variable (vocabulary : Vocabulary) (network : Network) (connection : Connection) :
    Variable :=
  let source := nodeFor vocabulary network connection.source
  source.outputVariable <|
    if connection.output = "" || connection.output = defaultOutputName then source.defaultOutput.name
    else connection.output

/-- A call computes a node of a network when it calls the node's function for its outputs, with one
argument for each declared input in order, which for a connection with an existing source is the variable
that it reads. -/
structure Call.Computes (vocabulary : Vocabulary) (network : Network) (path : String) (call : Call) :
    Prop where
  function : call.function = (nodeFor vocabulary network path).functionName
  passed : List.Forall₂ (fun name argument => ∀ connection, network.input? path name = some connection →
      network.hasNode connection.source = true → argument = .read (connection.variable vocabulary network))
    (vocabulary.describe (network.typeOf path)).inputOrder call.passed
  results : call.results = (nodeFor vocabulary network path).outputPlugs.map fun plug =>
    (nodeFor vocabulary network path).outputVariable plug.name

/-- A program is faithful to a node of a network in some order when that lists exactly what the node draws
on, each node once and after all that it reads, and the program's calls compute these nodes in this order.
-/
structure Program.Faithful (vocabulary : Vocabulary) (network : Network) (path : String)
    (order : List String) (program : Program) : Prop where
  once : order.Nodup
  exactly : ∀ node, node ∈ order ↔ network.DrawsOn path node
  fed : ∀ front node back, order = front ++ node :: back →
    ∀ source, network.Reads node source → source ∈ front
  calls : List.Forall₂ (Call.Computes vocabulary network) order program.calls

/-- A line of a source computes a node of a network when it calls the node's function with one text for each declared
input in order and then the variables of the node's outputs, and the text for a connection with an existing source is the
variable that it reads. -/
def LineComputes (vocabulary : Vocabulary) (network : Network) (path line : String) : Prop :=
  ∃ texts,
    line = "    mx_" ++ (nodeFor vocabulary network path).functionName ++ "(" ++ ", ".intercalate (texts ++
      (nodeFor vocabulary network path).outputPlugs.map fun plug =>
        ((nodeFor vocabulary network path).outputVariable plug.name).text) ++ ");" ∧
    List.Forall₂ (fun name text => ∀ connection, network.input? path name = some connection →
        network.hasNode connection.source = true → text = (connection.variable vocabulary network).text)
      (vocabulary.describe (network.typeOf path)).inputOrder texts

/-- The text of a call that computes a node is a line that does. -/
theorem Call.Computes.line {vocabulary : Vocabulary} {network : Network} {path : String} {call : Call}
    (computes : call.Computes vocabulary network path) : LineComputes vocabulary network path call.text := by
  refine ⟨call.passed.map Argument.text, ?_, ?_⟩
  · have results : call.results.map Variable.text = (nodeFor vocabulary network path).outputPlugs.map fun plug =>
        ((nodeFor vocabulary network path).outputVariable plug.name).text := by
      rw [computes.results, List.map_map]
      rfl
    rw [Call.text, computes.function, results]
  -- A variable that is passed is written as its text.
  · rw [List.forall₂_map_right_iff]
    refine computes.passed.imp fun name argument passes connection connected present => ?_
    rw [passes connection connected present]
    rfl

/-- The source of a faithful program has one line for each node, in the same order, that makes a call and computes the
node, if the functions of the nodes have words for names. -/
theorem Program.Faithful.lines {vocabulary : Vocabulary} {network : Network} {path : String} {order : List String}
    {program : Program} (faithful : program.Faithful vocabulary network path order)
    (words : ∀ node, network.DrawsOn path node → Source.IsWord (nodeFor vocabulary network node).functionName) :
    List.Forall₂ (LineComputes vocabulary network) order (Source.calls program.text) := by
  -- All calls are of functions with words for names, so each of them is one line of the source.
  have named : ∀ call ∈ program.calls, Text.feeds call.function = 0 := by
    intro call made
    obtain ⟨node, listed, computes⟩ := exists_of_forall₂ faithful.calls made
    rw [computes.function]
    exact (words node ((faithful.exactly node).1 listed)).feeds
  rw [Program.calls_text named, List.forall₂_map_right_iff]
  exact faithful.calls.imp fun _ _ computes => computes.line

namespace Shader

variable {vocabulary : Vocabulary} {network : Network}

/-- The arguments of a call that serves the node of a path are those for the declared inputs, in order. -/
theorem Serves.passed_nodeFor {options : EmitOptions} {graph : Graph} {path : String} {call : Call}
    (serves : Serves options graph (nodeFor vocabulary network path) call) :
    List.Forall₂ (fun input passed => argument options graph (nodeFor vocabulary network path) input
        ((vocabulary.describe (network.typeOf path)).inputType input)
        ((vocabulary.describe (network.typeOf path)).inputDefaults.get? input) = .ok passed)
      (vocabulary.describe (network.typeOf path)).inputOrder call.passed := by
  have passed := serves.passed
  -- The node has a category, so its plugs are declared.
  have defined : (vocabulary.describe (network.typeOf path)).category ≠ "" := by
    simpa using serves.defined
  simp only [arguments, Document.signature_nodeFor, NodeDescription.signature, if_neg defined] at passed
  exact List.forall₂_map_left_iff.1 (forall₂_of_mapM passed)

/-- A call that serves a mirrored node computes the network node, if all that this reads is mirrored. -/
theorem computes_of_serves {scope part : Set String} {graph : Graph} {options : EmitOptions}
    {path : String} {call : Call} (mirrors : Mirrors vocabulary network scope part graph)
    (upright : options.flipImages = false)
    (fed : ∀ source, network.Reads path source → source ∈ part)
    (serves : Serves options graph (nodeFor vocabulary network path) call) :
    call.Computes vocabulary network path := by
  refine ⟨serves.function, serves.passed_nodeFor.imp fun name argument passes => ?_, serves.results⟩
  intro connection connected present
  have source := mirrors.node?_leaf (fed connection.source ⟨present, name, connection, connected, rfl⟩)
  have input := Document.input?_nodeFor vocabulary network path connected present
  obtain ⟨feeding, there, plug, _, named, rfl⟩ := argument_of_connected input rfl passes
  cases source.symm.trans there
  -- Images are not turned, so the argument is the variable itself.
  simp only [oriented, upright, Bool.and_false, Bool.false_eq_true, if_false]
  rw [named, Connection.variable]
  -- The input names no output where the connection names none or the default one.
  simp only [Document.connectedInput]
  split
  · rfl
  · rfl

/-- A program emitted for a mirrored node is faithful to the network node, and computes mirrored nodes
only. -/
theorem emit_faithful {scope part : Set String} {graph : Graph} {options : EmitOptions} {name path : String}
    {program : Program} (mirrors : Mirrors vocabulary network scope part graph)
    (upright : options.flipImages = false) (inside : path ∈ part)
    (emits : emit options name graph (nodeFor vocabulary network path) = .ok program) :
    ∃ order, program.Faithful vocabulary network path order ∧ ∀ node ∈ order, node ∈ part := by
  obtain ⟨nodes, evaluates, serves⟩ := emit_calls emits
  -- The order of evaluation is one of network nodes.
  obtain ⟨order, rfl, once, exactly, fed, within⟩ := mirrors.evaluationOrder_ok inside evaluates
  refine ⟨order, ⟨once, exactly, fed, ?_⟩, within⟩
  rw [List.forall₂_map_left_iff] at serves
  -- What a listed node reads is drawn on as well, so it is listed and mirrored.
  have reads (node : String) (listed : node ∈ order) (source : String) (reads : network.Reads node source) :
      source ∈ part :=
    within source ((exactly source).2 (((exactly node).1 listed).tail reads))
  refine ((List.forall₂_and_left order program.calls).2 ⟨fun _ listed => listed, serves⟩).imp ?_
  rintro node call ⟨listed, serves⟩
  exact computes_of_serves mirrors upright (reads node listed) serves

variable {terminal : String} {names : List String}

/-- Where leaf names tell apart the nodes that feed a terminal, what is generated for such a node is
faithful to the network: it calls all that the node draws on and nothing else, each node once and after
what it reads, with the variables that the connections read. The source that is returned is that of such a program, and
if the functions of these nodes have words for names, the lines of its body that make calls are one for each node, in that
order. Where a node draws on one of another graph, nothing is generated. -/
theorem generate_faithful (vocabulary : Vocabulary)
    (apart : Set.InjOn NodePath.leaf {path | Reached network terminal names path}) {path : String}
    (reached : Reached network terminal names path) (searchPaths : List String) (name hint : String) :
    let document := (Document.build vocabulary network terminal names).document
    let key := graphKey (NodePath.materialName network.materialPath)
    (∀ source, generate document searchPaths name (NodePath.leaf path) hint = .ok source →
      ∃ program order, Shader.program document searchPaths name (NodePath.leaf path) hint = .ok program ∧
        program.text = source ∧ program.Faithful vocabulary network path order ∧
        ((∀ node, network.DrawsOn path node → Source.IsWord (nodeFor vocabulary network node).functionName) →
          List.Forall₂ (LineComputes vocabulary network) order (Source.calls source))) ∧
    ((∃ node, network.DrawsOn path node ∧ key node ≠ key path) →
      ∃ cause, generate document searchPaths name (NodePath.leaf path) hint =
        .error (.notGenerated (NodePath.leaf path) cause)) := by
  -- Whatever the hint, the node is found in the graph of its key.
  obtain ⟨graph, found, mirrors⟩ := Document.build_mirrors vocabulary apart reached hint
  dsimp only
  simp only [generate, Shader.program, found]
  cases emits : emit { searchPaths } name graph (nodeFor vocabulary network path) with
  | error cause => simp [Except.mapError, Except.map]
  | ok program =>
    obtain ⟨order, faithful, within⟩ := emit_faithful mirrors rfl ⟨reached, rfl⟩ emits
    refine ⟨fun source generated => ?_, ?_⟩
    · have same : program.text = source := by simpa [Except.mapError, Except.map] using generated
      exact ⟨program, order, rfl, same, faithful, fun words => same ▸ faithful.lines words⟩
    · -- All that is drawn on is listed, and so in the graph of the path's key.
      rintro ⟨node, draws, elsewhere⟩
      exact absurd (within node ((faithful.exactly node).2 draws)).2 elsewhere

end Shader

namespace Shader.Scattered

/-- A material whose base is a sum within one graph, and whose coat is one across two graphs. -/
def network : Network where
  materialPath := "/M"
  nodes := Dict.ofList [
    ("/M/a", ⟨"add", Dict.empty, Dict.ofList [("in", ⟨"/M/b", "out"⟩)]⟩),
    ("/M/b", ⟨"add", Dict.empty, Dict.empty⟩),
    ("/M/c", ⟨"add", Dict.empty, Dict.ofList [("in", ⟨"/M/g/d", ""⟩)]⟩),
    ("/M/g/d", ⟨"add", Dict.empty, Dict.empty⟩),
    ("/M/t", ⟨"surface", Dict.empty,
      Dict.ofList [("base", ⟨"/M/a", "out"⟩), ("coat", ⟨"/M/c", "out"⟩)]⟩)]
  terminals := Dict.empty

/-- The definition of its sums. -/
def vocabulary : Vocabulary where
  registry := { entries := [
    { identifier := "add", sourceType := "mtlx", family := "add", role := none
      inputs := [⟨"in", "float", none⟩], outputs := [⟨"out", "float", none⟩]
      metadata := Dict.empty, assetPath := none }] }
  library := DefinitionLibrary.empty

/-- The four nodes behind the two inputs are all that feeds the terminal. -/
theorem mem_of_reached {path : String} (reached : Reached network "/M/t" ["base", "coat"] path) :
    path ∈ ["/M/a", "/M/b", "/M/c", "/M/g/d"] := by
  have visits : network.visit [] ["/M/a", "/M/c"] = ["/M/a", "/M/b", "/M/c", "/M/g/d"] := by cbv
  have base : network.input? "/M/t" "base" = some ⟨"/M/a", "out"⟩ := by decide
  have coat : network.input? "/M/t" "coat" = some ⟨"/M/c", "out"⟩ := by decide
  obtain ⟨name, listed, connection, connected, _, draws⟩ := reached
  rw [← visits, Network.mem_visit_iff fun _ inside => absurd inside List.not_mem_nil]
  refine .inr ⟨connection.source, ?_, draws⟩
  -- Each of the two inputs reads one of the two roots.
  simp only [List.mem_cons, List.not_mem_nil, or_false] at listed
  rcases listed with rfl | rfl
  · cases base.symm.trans connected
    exact List.mem_cons_self
  · cases coat.symm.trans connected
    exact List.mem_cons_of_mem _ List.mem_cons_self

/-- The function of each of them is the sum of numbers. -/
theorem functionName_of_reached {path : String} (reached : Reached network "/M/t" ["base", "coat"] path) :
    (nodeFor vocabulary network path).functionName = "add_float" := by
  -- All nodes that are reached have the one definition of the vocabulary.
  have inside := mem_of_reached reached
  simp only [List.mem_cons, List.not_mem_nil, or_false] at inside
  rcases inside with rfl | rfl | rfl | rfl <;> cbv

/-- An order of two nodes to which a program is faithful lists what the base reads and then the base. -/
theorem order_eq {order : List String} {program : Program}
    (faithful : program.Faithful vocabulary network "/M/a" order) (two : order.length = 2) :
    order = ["/M/b", "/M/a"] := by
  have reads : network.Reads "/M/a" "/M/b" := ⟨by decide, "in", ⟨"/M/b", "out"⟩, by decide, rfl⟩
  obtain ⟨front, back, rfl⟩ := List.append_of_mem ((faithful.exactly "/M/a").2 .refl)
  have before := faithful.fed front "/M/a" back rfl "/M/b" reads
  -- The node that is read is in front, so there is room for no other.
  have positive := List.length_pos_of_mem before
  rw [List.length_append, List.length_cons] at two
  obtain ⟨first, rfl⟩ := List.length_eq_one_iff.1 (show front.length = 1 by omega)
  obtain rfl := List.length_eq_zero_iff.1 (show back.length = 0 by omega)
  rw [List.mem_singleton.1 before]
  rfl

/-- The base is computed by a source that adds in the node it reads and then in its own, and the coat by none. -/
theorem base_faithful :
    let document := (Document.build vocabulary network "/M/t" ["base", "coat"]).document
    (∃ source program, generate document [] "base" (NodePath.leaf "/M/a") "" = .ok source ∧
      Shader.program document [] "base" (NodePath.leaf "/M/a") "" = .ok program ∧ program.text = source ∧
      program.Faithful vocabulary network "/M/a" ["/M/b", "/M/a"] ∧
      List.Forall₂ (LineComputes vocabulary network) ["/M/b", "/M/a"] (Source.calls source) ∧
      Source.calls source = ["    mx_add_float(0.0, b_out);", "    mx_add_float(b_out, a_out);"]) ∧
    ∃ cause, generate document [] "coat" (NodePath.leaf "/M/c") "" =
      .error (.notGenerated (NodePath.leaf "/M/c") cause) := by
  have leaves : ["/M/a", "/M/b", "/M/c", "/M/g/d"].map NodePath.leaf = ["a", "b", "c", "d"] := by cbv
  -- The four leaf names are distinct.
  have apart : Set.InjOn NodePath.leaf {path | Reached network "/M/t" ["base", "coat"] path} :=
    fun path reached other reached' same => List.inj_on_of_nodup_map (by rw [leaves]; decide)
      (mem_of_reached reached) (mem_of_reached reached') same
  have base : Reached network "/M/t" ["base", "coat"] "/M/a" :=
    ⟨"base", by simp, ⟨"/M/a", "out"⟩, by decide, by decide, .refl⟩
  have coat : Reached network "/M/t" ["base", "coat"] "/M/c" :=
    ⟨"coat", by simp, ⟨"/M/c", "out"⟩, by decide, by decide, .refl⟩
  have words (node : String) (draws : network.DrawsOn "/M/a" node) :
      Source.IsWord (nodeFor vocabulary network node).functionName := by
    rw [functionName_of_reached ⟨"base", by simp, ⟨"/M/a", "out"⟩, by decide, by decide, draws⟩]
    decide
  constructor
  · -- What is drawn on is computed by evaluation, and the calls are then written out.
    have computed : (Shader.program (Document.build vocabulary network "/M/t" ["base", "coat"]).document [] "base"
        (NodePath.leaf "/M/a") "").toOption.map Program.calls =
          some [⟨"add_float", [.zero .float], [⟨"b", "out"⟩]⟩,
            ⟨"add_float", [.read ⟨"b", "out"⟩], [⟨"a", "out"⟩]⟩] := by cbv
    obtain ⟨program, result, calls⟩ := ok_of_map_toOption computed
    have generated := generate_of_program result
    obtain ⟨_, order, same, _, faithful, lines⟩ :=
      (generate_faithful vocabulary apart base [] "base" "").1 program.text generated
    cases result.symm.trans same
    cases order_eq faithful (by rw [faithful.calls.length_eq, calls]; rfl)
    refine ⟨program.text, program, generated, result, rfl, faithful, lines words, ?_⟩
    rw [Program.calls_text (by rw [calls]; decide), calls]
    decide
  · -- The coat draws on a node of another graph.
    refine (generate_faithful vocabulary apart coat [] "coat" "").2 ⟨"/M/g/d", .single ?_, by decide⟩
    exact ⟨by decide, "in", ⟨"/M/g/d", ""⟩, by decide, rfl⟩

end Shader.Scattered

namespace Shader.Broken

/-- A material with a single node below its terminal. -/
def network : Network where
  materialPath := "/M"
  nodes := Dict.ofList [
    ("/M/a", ⟨"a", Dict.empty, Dict.empty⟩),
    ("/M/t", ⟨"surface", Dict.empty, Dict.ofList [("base", ⟨"/M/a", "out"⟩)]⟩)]
  terminals := Dict.empty

/-- The definition of its node, whose family goes on after a line feed. -/
def vocabulary : Vocabulary where
  registry := { entries := [
    { identifier := "a", sourceType := "mtlx", family := "a();\n    mx_b", role := none
      inputs := [], outputs := [⟨"out", "float", none⟩]
      metadata := Dict.empty, assetPath := none }] }
  library := DefinitionLibrary.empty

/-- The node draws on nothing but itself. -/
theorem drawsOn_iff {node : String} : network.DrawsOn "/M/a" node ↔ node = "/M/a" := by
  -- What is drawn on is what a visit from the node finds.
  have visits : network.visit [] ["/M/a"] = ["/M/a"] := by cbv
  have listed : node ∈ network.visit [] ["/M/a"] ↔ node ∈ [] ∨ ∃ root ∈ ["/M/a"], network.DrawsOn root node :=
    Network.mem_visit_iff fun _ inside => absurd inside List.not_mem_nil
  simpa [visits] using listed.symm

/-- The node alone feeds the terminal, and still two calls are made for it. -/
theorem base_calls_twice :
    Reached network "/M/t" ["base"] "/M/a" ∧
      Set.InjOn NodePath.leaf {path | Reached network "/M/t" ["base"] path} ∧
      (∀ node, network.DrawsOn "/M/a" node ↔ node = "/M/a") ∧
      ∃ source, generate (Document.build vocabulary network "/M/t" ["base"]).document [] "base"
          (NodePath.leaf "/M/a") "" = .ok source ∧
        Source.calls source = ["    mx_a();", "    mx_b_float(a_out);"] := by
  have connected : network.input? "/M/t" "base" = some ⟨"/M/a", "out"⟩ := by decide
  have base : Reached network "/M/t" ["base"] "/M/a" :=
    ⟨"base", by simp, ⟨"/M/a", "out"⟩, connected, by decide, .refl⟩
  have only (path : String) (reached : Reached network "/M/t" ["base"] path) : path = "/M/a" := by
    obtain ⟨name, listed, connection, reads, _, draws⟩ := reached
    rw [List.mem_singleton.1 listed] at reads
    cases connected.symm.trans reads
    exact drawsOn_iff.1 draws
  refine ⟨base, fun path reached other reached' _ => (only path reached).trans (only other reached').symm,
    fun _ => drawsOn_iff, ?_⟩
  -- The identifier is written as it is authored, so that one call holds the text of two.
  have computed : (Shader.program (Document.build vocabulary network "/M/t" ["base"]).document [] "base"
      (NodePath.leaf "/M/a") "").toOption.map Program.body =
        some [.declare .float ⟨"a", "out"⟩, .call "a();\n    mx_b_float" [] [⟨"a", "out"⟩],
          .result ⟨"a", "out"⟩] := by cbv
  obtain ⟨program, result, body⟩ := ok_of_map_toOption computed
  obtain ⟨head, whole⟩ := program.exists_toList_text
  -- The statement of the call takes two lines.
  have rows : (program.body.map (·.line.toList)).flatMap (· ++ ['\n']) =
      ["    float a_out = 0.0;".toList, "    mx_a();".toList, "    mx_b_float(a_out);".toList,
        "    out = a_out;".toList].flatMap (· ++ ['\n']) := by
    rw [body]
    decide
  rw [rows] at whole
  refine ⟨program.text, generate_of_program result, ?_⟩
  rw [Source.calls, Source.body_of_rows whole]
  · decide
  · decide

end Shader.Broken

end ShadeBake

import Mathlib
import ShadeBake.Proofs.Shader.Calls
import ShadeBake.Proofs.Shader.Order

/-! Emitted programs declare before they use, and read what the graph says: the arguments of connected inputs are
the variables of the outputs that these read, which blocks further up declare. -/

namespace ShadeBake

namespace Argument

/-- The variable that an argument reads, if it reads one. -/
def read? : Argument → Option Variable
  | .read v => some v
  | .flipped source => source.read?
  | _ => none

end Argument

namespace Statement

/-- The variable that a line declares, if it declares one. -/
def declared? : Statement → Option Variable
  | .declare _ v => some v
  | _ => none

/-- The variables that a line uses: those that a call reads or writes, or the one that the result is set to. -/
def uses : Statement → List Variable
  | .declare _ _ => []
  | .call _ passed results => passed.filterMap Argument.read? ++ results
  | .result v => [v]

end Statement

/-- The variables that lines declare, in order. -/
def declared (lines : List Statement) : List Variable :=
  lines.filterMap Statement.declared?

/-- Lines declare what their parts do. -/
@[simp] theorem declared_append (front back : List Statement) :
    declared (front ++ back) = declared front ++ declared back :=
  -- The declarations are picked statement by statement.
  List.filterMap_append

/-- Lines are scoped when each uses only variables that are declared on earlier lines. -/
inductive Scoped : List Statement → Prop
  /-- Nothing is scoped. -/
  | nil : Scoped []
  /-- A line may come last when the lines before it declare all that it uses. -/
  | snoc {lines : List Statement} {line : Statement} (valid : Scoped lines)
    (known : ∀ v ∈ line.uses, v ∈ declared lines) : Scoped (lines ++ [line])

namespace Scoped

/-- What a scoped line uses is declared on the lines in front of it. -/
theorem known {lines : List Statement} (valid : Scoped lines) {front back : List Statement} {line : Statement}
    (split : lines = front ++ line :: back) : ∀ v ∈ line.uses, v ∈ declared front := by
  -- The line was the last one, or the lines without the last are split at it.
  induction valid generalizing back with
  | nil => simp at split
  | snoc _ known ih =>
    rcases split_concat split with ⟨rfl, rfl⟩ | ⟨_, shorter⟩
    · exact known
    · exact ih shorter

end Scoped

namespace Document.Node

/-- The names of the inputs that a call passes arguments for: those that are declared, or else those that are
authored, with the coordinates of an image that has none. -/
def argumentNames (node : Document.Node) : List String :=
  match node.signature with
  | some signature => signature.inputs.map (·.name)
  | none =>
    let authored := node.inputs.map (·.name)
    if node.isImage && (node.input? Shader.coordinatesName).isNone then authored ++ [Shader.coordinatesName]
    else authored

end Document.Node

namespace Shader

open Document (Graph Node Plug)

variable {options : EmitOptions} {graph : Graph} {node : Node}

/-- An argument agrees with the input of a name, the first if there are several, when for one that is connected it
is the variable of the output that the source has under the name read, or of its default output if none is named. -/
def Agrees (options : EmitOptions) (graph : Graph) (node : Node) (name : String) (passed : Argument) : Prop :=
  ∀ input source, node.input? name = some input → input.node = some source →
    ∃ feeding, graph.node? source = some feeding ∧ ∃ plug ∈ feeding.outputPlugs,
      plug.name = input.output.getD feeding.defaultOutput.name ∧
      passed = oriented options node name (.read (feeding.outputVariable plug.name))

/-- One argument is passed for each name in order. -/
theorem forall₂_arguments {passed : List Argument} (passes : arguments options graph node = .ok passed) :
    List.Forall₂ (fun name argument => ∃ declared default,
      Shader.argument options graph node name declared default = .ok argument) node.argumentNames passed := by
  -- With a signature there is an argument for each plug, and without one for each input.
  unfold arguments at passes
  unfold Node.argumentNames
  cases defined : node.signature with
  | some signature =>
    simp only [defined] at passes
    rw [List.forall₂_map_left_iff]
    exact (forall₂_of_mapM passes).imp fun plug _ works => ⟨plug.type, plug.default, works⟩
  | none =>
    simp only [defined] at passes
    obtain ⟨authored, works, done⟩ := ok_of_bind passes
    have each : List.Forall₂ (fun name argument => ∃ declared default,
        Shader.argument options graph node name declared default = .ok argument)
        (node.inputs.map (·.name)) authored := by
      rw [List.forall₂_map_left_iff]
      exact (forall₂_of_mapM works).imp fun input _ works => ⟨input.type, none, works⟩
    dsimp only
    split at done
    -- An image is given coordinates behind what is authored.
    · rename_i lacking
      obtain ⟨last, given, done⟩ := ok_of_bind done
      rw [if_pos lacking, ← Except.ok.inj done]
      exact List.rel_append each (.cons ⟨"vector2", none, given⟩ .nil)
    · rename_i complete
      rw [if_neg complete, ← Except.ok.inj done]
      exact each

/-- Turning an argument around keeps the variable that it reads. -/
@[simp] theorem read?_oriented (name : String) (plain : Argument) :
    (oriented options node name plain).read? = plain.read? := by
  -- A turned argument reads what the argument reads.
  unfold oriented
  split
  · rfl
  · rfl

/-- An argument that reads a variable is one for a connected input. -/
theorem exists_source {name declared : String} {default : Option Literal} {passed : Argument}
    (passes : argument options graph node name declared default = .ok passed) {v : Variable}
    (reads : passed.read? = some v) :
    ∃ input source, node.input? name = some input ∧ input.node = some source := by
  -- Only the first branch passes a variable.
  obtain ⟨plain, works, rfl⟩ := exists_plain passes
  rw [read?_oriented] at reads
  unfold plainArgument at works
  dsimp only at works
  split at works
  · rename_i input source connected
    obtain ⟨found, isInput, connects⟩ := Option.bind_eq_some_iff.1 connected
    obtain ⟨_, isSource, same⟩ := Option.map_eq_some_iff.1 connects
    cases same
    exact ⟨input, source, isInput, isSource⟩
  -- Literals, surface coordinates and zeros read no variable.
  · exfalso
    split at works
    · obtain ⟨type, _, work⟩ := ok_of_bind works
      split at work
      · cases work
        cases reads
      · cases work
    · split at works
      · cases works
        cases reads
      · cases typed : inputType node name (typeOf (node.input? name) declared) with
        | error cause => simp [typed, Except.map] at works
        | ok type =>
          rw [typed] at works
          cases works
          cases reads

namespace Serves

variable {call : Call}

/-- The arguments of a call that serves a node agree with its inputs. -/
theorem agrees (serves : Serves options graph node call) :
    List.Forall₂ (Agrees options graph node) node.argumentNames call.passed := by
  -- Each argument that reads is the variable of the source's output.
  refine (forall₂_arguments serves.passed).imp fun name argument => ?_
  rintro ⟨declared, default, passes⟩ input source found reads
  exact argument_of_connected found reads passes

/-- A variable that a call for a node reads holds an output of a source of the node. -/
theorem exists_source (serves : Serves options graph node call) {v : Variable}
    (reads : v ∈ call.passed.filterMap Argument.read?) :
    ∃ source ∈ node.sources, ∃ feeding, graph.node? source = some feeding ∧ ∃ plug ∈ feeding.outputPlugs,
      v = feeding.outputVariable plug.name := by
  -- A variable that is read was passed for an input with a source, which is in the graph.
  obtain ⟨argument, passed, isRead⟩ := List.mem_filterMap.1 reads
  obtain ⟨name, _, declared, default, passes⟩ := exists_of_forall₂ (forall₂_arguments serves.passed) passed
  obtain ⟨input, source, found, connected⟩ := Shader.exists_source passes isRead
  obtain ⟨feeding, there, plug, isPlug, _, rfl⟩ := argument_of_connected found connected passes
  rw [read?_oriented] at isRead
  exact ⟨source, List.mem_filterMap.2 ⟨input, List.mem_of_find?_eq_some found, connected⟩, feeding, there, plug,
    isPlug, (Option.some.inj isRead).symm⟩

end Serves

/-- Lines that declare the outputs of a node declare their variables in order. -/
theorem declared_of_declares {plugs : List Plug} {lines : List Statement}
    (declares : List.Forall₂ (Declares node) plugs lines) :
    declared lines = plugs.map fun plug => node.outputVariable plug.name := by
  -- A declaration declares the one variable of its output.
  induction declares with
  | nil => rfl
  | cons one _ ih =>
    obtain ⟨type, _, rfl⟩ := one
    rw [List.map_cons, ← ih]
    rfl

/-- Declarations may follow scoped lines. -/
theorem scoped_append_declares {lines declarations : List Statement} {plugs : List Plug} (valid : Scoped lines)
    (declares : List.Forall₂ (Declares node) plugs declarations) : Scoped (lines ++ declarations) := by
  -- A declaration uses no variable.
  induction declares generalizing lines with
  | nil => rwa [List.append_nil]
  | cons one _ ih =>
    obtain ⟨type, _, rfl⟩ := one
    rw [List.append_cons]
    exact ih (valid.snoc fun _ used => absurd used List.not_mem_nil)

/-- Lines provide for nodes when they are scoped and declare the variables of all outputs of the nodes. -/
structure Provides (nodes : List Node) (lines : List Statement) : Prop where
  valid : Scoped lines
  outputs : ∀ node ∈ nodes, ∀ plug ∈ node.outputPlugs, node.outputVariable plug.name ∈ declared lines

/-- A block that computes a node provides for it behind lines that provide for all that it reads. -/
theorem Provides.snoc {nodes : List Node} {lines : List Statement} {block : Block}
    (provides : Provides nodes lines) (computes : Computes options graph node block)
    (fed : ∀ source ∈ node.sources, ∀ feeding, graph.node? source = some feeding → feeding ∈ nodes) :
    Provides (nodes ++ [node]) (lines ++ block.lines) := by
  have results := declared_of_declares computes.declares
  -- A block declares the outputs of its node, and its call declares nothing.
  have declares : declared (lines ++ block.lines) =
      declared lines ++ node.outputPlugs.map fun plug => node.outputVariable plug.name := by
    rw [Block.lines, ← List.append_assoc, declared_append, declared_append, results]
    exact List.append_nil _
  refine ⟨?_, fun other inside plug isPlug => ?_⟩
  · rw [Block.lines, ← List.append_assoc]
    refine (scoped_append_declares provides.valid computes.declares).snoc fun v used => ?_
    rw [declared_append, results, List.mem_append]
    -- The call reads outputs of the sources, and writes the node's own.
    rcases List.mem_append.1 used with read | written
    · obtain ⟨source, isSource, feeding, there, plug, isPlug, rfl⟩ := computes.serves.exists_source read
      exact .inl (provides.outputs feeding (fed source isSource feeding there) plug isPlug)
    · exact .inr (computes.serves.results ▸ written)
  · rw [declares, List.mem_append]
    rcases List.mem_append.1 inside with before | last
    · exact .inl (provides.outputs other before plug isPlug)
    · obtain rfl := List.mem_singleton.1 last
      exact .inr (List.mem_map.2 ⟨plug, isPlug, rfl⟩)

/-- Blocks that compute ordered nodes provide for them behind lines that provide for the nodes in front. -/
theorem Provides.append {nodes order : List Node} {lines : List Statement} {blocks : List Block}
    (provides : Provides nodes lines) (computes : List.Forall₂ (Computes options graph) order blocks)
    (ordered : graph.Ordered (nodes ++ order)) :
    Provides (nodes ++ order) (lines ++ blocks.flatMap Block.lines) := by
  induction computes generalizing nodes lines with
  | nil => simpa using provides
  | @cons node block order blocks one _ ih =>
    have next : Provides (nodes ++ [node]) (lines ++ block.lines) := by
      refine provides.snoc one fun source isSource feeding there => ?_
      -- The source is in front of its reader, and is the graph's node of its name.
      obtain ⟨listed, before, rfl⟩ := List.mem_map.1 (ordered.fed rfl source isSource)
      cases (ordered.node?_eq (List.mem_append_left _ before)).symm.trans there
      exact before
    have rest := ih next (by rwa [List.append_assoc])
    rwa [List.append_assoc, List.append_assoc] at rest

/-- A program is laid out for a root of a graph, in an order of nodes and with one block for each, when the order
is that of evaluation, the blocks declare and compute the nodes with arguments that agree with their inputs, each
line uses only what earlier lines declare, and the result is the default output of the root and of its type. -/
structure LaidOut (options : EmitOptions) (graph : Graph) (root : Node) (order : List Node) (blocks : List Block)
    (program : Program) : Prop where
  evaluates : graph.evaluationOrder root = .ok order
  computes : List.Forall₂ (Computes options graph) order blocks
  agrees : List.Forall₂ (fun node block =>
    List.Forall₂ (Agrees options graph node) node.argumentNames block.call.passed) order blocks
  body : program.body =
    blocks.flatMap Block.lines ++ [.result (root.outputVariable root.defaultOutput.name)]
  known : ∀ front line back, program.body = front ++ line :: back → ∀ v ∈ line.uses, v ∈ declared front
  type : ShaderType.ofValueType? root.defaultOutput.type = some program.type

/-- The program emitted for a node of a graph declares before it uses, and reads what the graph says. -/
theorem emit_laidOut {name : String} {root : Node} {program : Program}
    (found : graph.node? root.name = some root) (emits : emit options name graph root = .ok program) :
    ∃ order blocks, LaidOut options graph root order blocks program := by
  obtain ⟨order, blocks, evaluates, computes, body, type⟩ := emit_blocks emits
  obtain ⟨ordered, listed, _⟩ := Graph.evaluationOrder_ok found evaluates
  -- The blocks start from nothing, and provide for the root as well.
  have start : Provides [] [] := ⟨.nil, fun _ inside => absurd inside List.not_mem_nil⟩
  have provides : Provides order (blocks.flatMap Block.lines) := start.append computes ordered
  have valid : Scoped program.body := by
    rw [body]
    refine provides.valid.snoc fun v used => ?_
    obtain rfl := List.mem_singleton.1 used
    exact provides.outputs root listed _ root.defaultOutput_mem
  exact ⟨order, blocks, {
    evaluates, computes, body, type
    agrees := computes.imp fun _ _ one => one.serves.agrees
    known := fun _ _ _ split => valid.known split }⟩

end Shader

namespace Shader.Turned

open Document (Graph Node)

/-- A node with two outputs, neither of the default name. -/
def places : Node where
  name := "places"
  category := "place2d"
  type := "multioutput"
  definition := some "ND_place2d"
  signature := some { inputs := [], outputs := [⟨"uv", "vector2", none⟩, ⟨"scale", "float", none⟩] }

/-- An image without a known definition that reads the first of them by default. -/
def image : Node where
  name := "image"
  category := "image"
  type := "color3"
  inputs := [{ name := "texcoord", type := "vector2", node := some "places" }]

/-- The image scaled by the other output, which is read by name. -/
def scaled : Node where
  name := "scaled"
  category := "multiply"
  type := "color3"
  inputs := [{ name := "in1", type := "color3", node := some "image" },
    { name := "in2", type := "float", node := some "places", output := some "scale" }]

/-- The graph of the three nodes. -/
def graph : Graph where
  name := "NG"
  nodes := [scaled, image, places]

/-- The program for the scaled image, with images turned around. -/
def program : Program where
  name := "shader"
  node := "scaled"
  graph := "NG"
  category := "multiply"
  searchPaths := []
  type := .color
  body := [
    .declare .vector2 ⟨"places", "uv"⟩,
    .declare .float ⟨"places", "scale"⟩,
    .call "place2d" [] [⟨"places", "uv"⟩, ⟨"places", "scale"⟩],
    .declare .color ⟨"image", "out"⟩,
    .call "image_color3" [.flipped (.read ⟨"places", "uv"⟩)] [⟨"image", "out"⟩],
    .declare .color ⟨"scaled", "out"⟩,
    .call "multiply_color3" [.read ⟨"image", "out"⟩, .read ⟨"places", "scale"⟩] [⟨"scaled", "out"⟩],
    .result ⟨"scaled", "out"⟩]

/-- It reads both outputs behind their declarations, the first of them turned around. -/
theorem scaled_laidOut :
    graph.node? scaled.name = some scaled ∧
    emit { flipImages := true } "shader" graph scaled = .ok program ∧
    ∃ order blocks, LaidOut { flipImages := true } graph scaled order blocks program := by
  -- The program is computed, and the general statement then says how it is laid out.
  have found : graph.node? scaled.name = some scaled := by decide
  have emits : emit { flipImages := true } "shader" graph scaled = .ok program := by cbv
  exact ⟨found, emits, emit_laidOut found emits⟩

end Shader.Turned

end ShadeBake

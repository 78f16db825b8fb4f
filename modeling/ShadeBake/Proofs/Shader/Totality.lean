import ShadeBake.Proofs.Document.Locate
import ShadeBake.Proofs.Shader.Calls
import ShadeBake.Proofs.Shader.Order
import ShadeBake.Shader.Generate

/-! Programs are emitted from all sound graphs, which are those whose nodes can be called and read one another
in no circle. -/

namespace ShadeBake

/-- A value type is supported when a type of the shading language stands for it. -/
def ShaderType.Supports (type : String) : Prop :=
  (ofValueType? type).isSome = true

/-- A literal fits a value type when some constant of the shader type expresses it. -/
def Literal.Fits (value : Literal) (type : String) : Prop :=
  ∃ known, ShaderType.ofValueType? type = some known ∧ (Constant.ofLiteral? known value).isSome = true

namespace Document

/-- A declared plug is usable when its type is supported and its default fits it. -/
structure Plug.Usable (plug : Plug) : Prop where
  supported : ShaderType.Supports plug.type
  default : ∀ value, plug.default = some value → value.Fits plug.type

/-- An input suits a declared plug when its type comes to that of the plug, and its literal fits that. -/
structure Input.Suits (input : Input) (plug : Plug) : Prop where
  typed : ShaderType.ofValueType? input.type = ShaderType.ofValueType? plug.type
  authored : ∀ value, input.value = some value → value.Fits plug.type

/-- A signature accepts an input that reads no other output than the default one, and suits the plugs of its
name. -/
def Signature.Accepts (signature : Signature) (input : Input) : Prop :=
  input.output = none ∧ ∀ plug ∈ signature.inputs, input.name = plug.name → input.Suits plug

/-- A node is callable when it is of a known category, declares usable plugs that accept its inputs, and has
outputs of supported types. -/
structure Node.Callable (node : Node) : Prop where
  category : node.category ≠ ""
  declared : ∃ signature, node.signature = some signature ∧ (∀ plug ∈ signature.inputs, plug.Usable) ∧
    ∀ input ∈ node.inputs, signature.Accepts input
  outputs : ∀ plug ∈ node.outputPlugs, ShaderType.Supports plug.type

/-- A graph is sound when its nodes are callable and all that they read are nodes of the graph of a lower
rank. -/
structure Graph.Sound (graph : Graph) : Prop where
  callable : ∀ node ∈ graph.nodes, node.Callable
  fed : ∀ node ∈ graph.nodes, ∀ source ∈ node.sources, source ∈ graph.nodes.map (·.name)
  ranked : ∃ rank : String → Nat, ∀ node ∈ graph.nodes, ∀ source ∈ node.sources, rank source < rank node.name

/-- A name that a node of a graph has is found. -/
theorem Graph.exists_node? {graph : Graph} {name : String} (named : name ∈ graph.nodes.map (·.name)) :
    ∃ node ∈ graph.nodes, graph.node? name = some node ∧ node.name = name := by
  -- Some node has the name, so the first one with it is found.
  obtain ⟨node, inside, rfl⟩ := List.mem_map.1 named
  obtain ⟨found, first⟩ := Option.isSome_iff_exists.1
    (List.find?_isSome.2 ⟨node, inside, decide_eq_true rfl⟩ : (graph.node? node.name).isSome = true)
  exact ⟨found, List.mem_of_find?_eq_some first, first, by simpa using List.find?_some first⟩

namespace Graph.Sound

variable {graph : Graph} (sound : graph.Sound)

include sound

/-- What any name draws on can be sorted. -/
theorem sortable (name : String) : graph.Sortable name := by
  obtain ⟨rank, ranked⟩ := sound.ranked
  -- Along a chain of readers the ranks decrease.
  have below : ∀ reader source, Relation.TransGen graph.Reads reader source → rank source < rank reader := by
    have step : ∀ reader source, graph.Reads reader source → rank source < rank reader := by
      rintro reader source ⟨node, found, isSource⟩
      have named : node.name = reader := by simpa using List.find?_some found
      exact named ▸ ranked node (List.mem_of_find?_eq_some found) source isSource
    intro reader source draws
    induction draws with
    | single reads => exact step _ _ reads
    | tail _ reads ih => exact Nat.lt_trans (step _ _ reads) ih
  refine ⟨?_, fun reader _ cycle => Nat.lt_irrefl _ (below reader reader cycle)⟩
  rintro reader _ source ⟨node, found, isSource⟩
  -- The sources of a sound graph's nodes are among its nodes.
  obtain ⟨_, _, there, _⟩ := exists_node? (sound.fed node (List.mem_of_find?_eq_some found) source isSource)
  exact Option.isSome_of_eq_some there

end Graph.Sound

end Document

namespace Shader

open Document (Graph Node Plug Signature)

variable {graph : Graph} {node : Node} (options : EmitOptions)

/-- There is an argument for a usable plug of a signature that accepts the inputs, if all that the node reads
is in the graph. -/
theorem exists_argument {signature : Signature} (accepts : ∀ input ∈ node.inputs, signature.Accepts input)
    {plug : Plug} (declared : plug ∈ signature.inputs) (usable : plug.Usable)
    (fed : ∀ source ∈ node.sources, source ∈ graph.nodes.map (·.name)) :
    ∃ passed, argument options graph node plug.name plug.type plug.default = .ok passed := by
  obtain ⟨known, type⟩ := Option.isSome_iff_exists.1 usable.supported
  have suits : ∀ input, node.input? plug.name = some input → input.Suits plug := fun input found =>
    (accepts input (List.mem_of_find?_eq_some found)).2 plug declared (by simpa using List.find?_some found)
  -- What an input of the name has for a type comes to the type of the plug.
  have typed : ShaderType.ofValueType? (typeOf (node.input? plug.name) plug.type) = some known := by
    cases found : node.input? plug.name with
    | none => exact type
    | some input =>
      simp only [typeOf]
      split
      · exact type
      · exact (suits input found).typed.trans type
  have plain : ∃ passed, plainArgument graph node plug.name plug.type plug.default = .ok passed := by
    unfold plainArgument
    dsimp only
    split
    -- A connection reads the default output of a node of the graph.
    · rename_i input source reads
      obtain ⟨authored, found, connects⟩ := Option.bind_eq_some_iff.1 reads
      obtain ⟨_, isSource, same⟩ := Option.map_eq_some_iff.1 connects
      cases same
      have inside := List.mem_of_find?_eq_some found
      obtain ⟨feeding, _, there, _⟩ := Graph.exists_node?
        (fed source (List.mem_filterMap.2 ⟨input, inside, isSource⟩))
      exact ⟨_, by simp only [connected, there, (accepts input inside).1]; rfl⟩
    · split
      -- A literal is that of an input of the name, or else the default.
      · rename_i value given
        have fits : value.Fits plug.type := by
          rcases Option.or_eq_some_iff.1 given with authored | ⟨_, default⟩
          · obtain ⟨input, found, isValue⟩ := Option.bind_eq_some_iff.1 authored
            exact (suits input found).authored value isValue
          · exact usable.default value default
        obtain ⟨other, same, expressed⟩ := fits
        cases type.symm.trans same
        obtain ⟨constant, expresses⟩ := Option.isSome_iff_exists.1 expressed
        have written : typeOf (node.input? plug.name) plug.type ≠ "" := by
          intro empty
          -- No shader type stands for the empty name.
          simp [empty, ShaderType.ofValueType?] at typed
        exact ⟨.constant constant, by
          simp only [literal, if_neg written, inputType, typed, bind, Except.bind, expresses, pure, Except.pure]⟩
      · split
        · exact ⟨_, rfl⟩
        · exact ⟨_, by simp only [inputType, typed]; rfl⟩
  obtain ⟨passed, works⟩ := plain
  simp only [argument, works, bind, Except.bind]
  split
  · exact ⟨_, rfl⟩
  · exact ⟨_, rfl⟩

/-- A callable node is computed by some statements, if all that it reads is in the graph. -/
theorem exists_statements (callable : node.Callable)
    (fed : ∀ source ∈ node.sources, source ∈ graph.nodes.map (·.name)) :
    ∃ lines, statements options graph node = .ok lines := by
  -- A callable node has arguments for its plugs and known types for its outputs.
  obtain ⟨signature, declared, usable, accepts⟩ := callable.declared
  obtain ⟨passed, passes⟩ : ∃ passed, arguments options graph node = .ok passed := by
    simp only [arguments, declared]
    exact exists_mapM fun plug inside => exists_argument options accepts inside (usable plug inside) fed
  obtain ⟨declarations, declares⟩ : ∃ lines, node.outputPlugs.mapM (declaration node) = .ok lines := by
    refine exists_mapM fun plug inside => ?_
    obtain ⟨known, type⟩ := Option.isSome_iff_exists.1 (callable.outputs plug inside)
    exact ⟨_, by simp only [declaration, type]; rfl⟩
  exact ⟨_, by
    simp only [statements, if_neg callable.category, passes, declares, bind, Except.bind, pure, Except.pure]; rfl⟩

/-- A program is emitted for each node of a sound graph that is found by its name. -/
theorem exists_emit (name : String) (sound : graph.Sound) {root : Node}
    (found : graph.node? root.name = some root) :
    ∃ program, emit options name graph root = .ok program := by
  have inside := List.mem_of_find?_eq_some found
  obtain ⟨order, evaluates⟩ := Graph.exists_evaluationOrder found (sound.sortable root.name)
  obtain ⟨type, supported⟩ := Option.isSome_iff_exists.1
    ((sound.callable root inside).outputs _ root.defaultOutput_mem)
  -- All nodes of the order are nodes of the graph.
  obtain ⟨computed, computes⟩ : ∃ computed, order.mapM (statements options graph) = .ok computed := by
    refine exists_mapM fun node listed => ?_
    have there : node ∈ graph.nodes :=
      (Graph.mem_of_evaluationOrder evaluates listed).elim id fun same => same ▸ inside
    exact exists_statements options (sound.callable node there) (sound.fed node there)
  exact ⟨_, by simp only [emit, evaluates, supported, computes, bind, Except.bind, pure, Except.pure]; rfl⟩

/-- A source is generated for each name in a document whose graphs are sound, with any hint. -/
theorem exists_generate {document : Document} (sound : ∀ graph ∈ document.graphs, graph.Sound) {leaf : String}
    (named : ∃ graph ∈ document.graphs, leaf ∈ graph.nodes.map (·.name)) (searchPaths : List String)
    (name hint : String) : ∃ source, generate document searchPaths name leaf hint = .ok source := by
  obtain ⟨graph, there, inside⟩ := named
  obtain ⟨node, _, found, _⟩ := Graph.exists_node? inside
  obtain ⟨position, isThere⟩ := List.mem_iff_getElem?.1 there
  obtain ⟨located, isLocated⟩ := Option.isSome_iff_exists.1
    (Document.findGraph?_isSome ⟨graph, isThere, by simp [found]⟩ hint : (document.findGraph? hint leaf).isSome)
  -- The graph that is found may be another one, and holds the name too.
  obtain ⟨other, isOther, holds⟩ := Document.holdsAt_of_findGraph? isLocated
  obtain ⟨root, isRoot⟩ := Option.isSome_iff_exists.1 holds
  have named : root.name = leaf := by simpa using List.find?_some isRoot
  obtain ⟨program, emits⟩ := exists_emit { searchPaths } name (sound other (List.mem_of_getElem? isOther))
    (named ▸ isRoot)
  have finds : document.findNode? hint leaf = some (other, root) := by
    simp [Document.findNode?, isLocated, isOther, isRoot]
  have computes : Shader.program document searchPaths name leaf hint = .ok program := by
    simp only [Shader.program, finds, emits, Except.mapError]
  exact ⟨program.text, generate_of_program computes⟩

end Shader

end ShadeBake

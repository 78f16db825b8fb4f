import ShadeBake.Document.Build
import ShadeBake.Proofs.Network.Reach

/-! What the document node for a network node is: it bears the leaf name, reads the leaf names of what the
network node reads, and has no input twice. -/

namespace ShadeBake

namespace Document

/-- Changing the first picked element changes no view of the list that the change keeps. -/
theorem map_modifyFirst {α β : Type} (pick : α → Bool) (change : α → α) (view : α → β)
    (keeps : ∀ a, view (change a) = view a) (list : List α) :
    (modifyFirst pick change list).map view = list.map view := by
  induction list with
  | nil => rfl
  | cons head rest ih =>
    simp only [modifyFirst]
    -- Up to the first picked element nothing is changed, and after it neither.
    split
    · simp [keeps]
    · simp [ih]

/-- What is made of some elements of a list bears their names in the order of the list. -/
theorem map_filterMap_sublist {α β γ : Type} (make : α → Option β) (view : β → γ) (name : α → γ)
    (bears : ∀ a b, make a = some b → view b = name a) (list : List α) :
    ((list.filterMap make).map view).Sublist (list.map name) := by
  induction list with
  | nil => exact .slnil
  | cons head rest ih =>
    rw [List.filterMap_cons, List.map_cons]
    -- What is made of the head bears its name, or the head is passed over.
    cases made : make head with
    | none => exact .cons _ ih
    | some b =>
      rw [List.map_cons, bears head b made]
      exact .cons_cons _ ih

namespace Node

/-- A node is plain when no two of its inputs have one name. -/
def Distinct (node : Node) : Prop :=
  (node.inputs.map (·.name)).Nodup

/-- The input of a name is the one that is listed under it. -/
theorem input?_eq_some_iff {node : Node} (distinct : node.Distinct) {name : String} {input : Input} :
    node.input? name = some input ↔ input ∈ node.inputs ∧ input.name = name :=
  -- No two inputs have one name.
  find?_eq_some_iff_of_nodup distinct

/-- The inputs put in one after the other come behind the old ones of other names. -/
theorem inputs_foldl_putInput (node : Node) (inputs : List Input) (distinct : (inputs.map (·.name)).Nodup) :
    (inputs.foldl putInput node).inputs =
      node.inputs.filter (fun input => input.name ∉ inputs.map (·.name)) ++ inputs := by
  induction inputs generalizing node with
  | nil =>
    rw [List.append_nil]
    exact (List.filter_eq_self.2 fun _ _ => rfl).symm
  | cons head rest ih =>
    rw [List.map_cons, List.nodup_cons] at distinct
    rw [List.foldl_cons, ih _ distinct.2]
    -- The head's name is in none of the rest, so the rest does not take it away.
    have stays : [head].filter (fun input => decide (input.name ∉ rest.map (·.name))) = [head] := by
      refine List.filter_eq_self.2 fun input inside => ?_
      rw [List.mem_singleton.1 inside]
      exact decide_eq_true distinct.1
    simp only [putInput, List.filter_append, List.filter_filter, stays, List.append_assoc,
      List.singleton_append]
    congr 1
    -- Being none of the head and of the rest is being none of them all.
    refine List.filter_congr fun input _ => ?_
    simp only [List.map_cons, List.mem_cons, not_or, Bool.decide_and, Bool.and_comm]

/-- Putting inputs in changes nothing but the inputs. -/
theorem foldl_putInput_eq (node : Node) (inputs : List Input) :
    inputs.foldl putInput node = { node with inputs := (inputs.foldl putInput node).inputs } := by
  -- Each input is put in on its own, which changes the inputs only.
  induction inputs generalizing node with
  | nil => rfl
  | cons head rest ih =>
    rw [List.foldl_cons, ih]
    rfl

/-- A literal for an input that is not there comes in a new one, last. -/
theorem setValue_of_absent {node : Node} {name : String} (absent : name ∉ node.inputs.map (·.name))
    (value : Literal) (type : String) :
    node.setValue name value type =
      { node with inputs := node.inputs ++ [{ name, type, value := some value }] } := by
  have none : ∀ input ∈ node.inputs, input.name ≠ name := fun input inside named =>
    absent (List.mem_map.2 ⟨input, inside, named⟩)
  have unfound : node.input? name = Option.none := by
    unfold input?
    rw [List.find?_eq_none]
    exact fun input inside => by simpa using none input inside
  -- No input has the name, so putting the new one in takes none away.
  have kept : node.inputs.filter (·.name ≠ name) = node.inputs :=
    List.filter_eq_self.2 fun input inside => decide_eq_true (none input inside)
  simp only [setValue, unfound, putInput, kept]

end Node

/-- The input for a parameter of a network node, if it has a literal in the type that is declared for it or
inferred from it. -/
def literalInput? (description : NodeDescription) (network : Network) (path name : String) : Option Input := do
  let value ← network.parameter? path name
  let type := (description.inputTypes.get? name).getD value.inferredType
  let literal ← Literal.ofParameter? type value
  return { name, type, value := some literal }

/-- An input for a parameter has its name, and its literal in a type that is declared or inferred. -/
theorem literalInput?_eq_some_iff {description : NodeDescription} {network : Network} {path name : String}
    {input : Input} :
    literalInput? description network path name = some input ↔
      ∃ value literal, network.parameter? path name = some value ∧
        Literal.ofParameter? ((description.inputTypes.get? name).getD value.inferredType) value =
          some literal ∧
        input = {
          name
          type := (description.inputTypes.get? name).getD value.inferredType
          value := some literal } := by
  -- There is a parameter, and it converts to a literal.
  unfold literalInput?
  constructor
  · intro made
    obtain ⟨value, given, made⟩ := Option.bind_eq_some_iff.1 made
    obtain ⟨literal, converts, made⟩ := Option.bind_eq_some_iff.1 made
    exact ⟨value, literal, given, converts, (Option.some.inj made).symm⟩
  · rintro ⟨value, literal, given, converts, rfl⟩
    exact Option.bind_eq_some_iff.2 ⟨value, given, Option.bind_eq_some_iff.2 ⟨literal, converts, rfl⟩⟩

/-- An input for a parameter bears its name. -/
theorem name_of_literalInput? {description : NodeDescription} {network : Network} {path name : String}
    {input : Input} (made : literalInput? description network path name = some input) : input.name = name := by
  -- The input is made with the name of its parameter.
  obtain ⟨_, _, _, _, rfl⟩ := literalInput?_eq_some_iff.1 made
  rfl

/-- The inputs for the parameters of a network node, in the order of their names. -/
def literalInputs (description : NodeDescription) (network : Network) (path : String) : List Input :=
  (network.parameterNames path).filterMap (literalInput? description network path)

/-- The inputs for parameters stand in the order of the parameters. -/
theorem names_literalInputs_sublist (description : NodeDescription) (network : Network) (path : String) :
    ((literalInputs description network path).map (·.name)).Sublist (network.parameterNames path) := by
  -- An input keeps the name of the parameter that it is made from.
  have names := map_filterMap_sublist (literalInput? description network path) (·.name) id
    (fun _ _ => name_of_literalInput?) (network.parameterNames path)
  rwa [List.map_id] at names

/-- A node gets the inputs for the parameters of a network node behind its own, if these have other names. -/
theorem withParameters_eq (description : NodeDescription) (network : Network) (path : String) (node : Node)
    (absent : ∀ name ∈ network.parameterNames path, name ∉ node.inputs.map (·.name)) :
    withParameters description network path node =
      { node with inputs := node.inputs ++ literalInputs description network path } := by
  have distinct := network.parameterNames_nodup path
  unfold withParameters literalInputs
  -- The induction is on the parameters, which put in their inputs one after the other.
  generalize network.parameterNames path = names at absent distinct ⊢
  induction names generalizing node with
  | nil => simp
  | cons name rest ih =>
    rw [List.nodup_cons] at distinct
    have later : ∀ other ∈ rest, other ∉ node.inputs.map (·.name) := fun other inside =>
      absent other (List.mem_cons_of_mem _ inside)
    simp only [List.foldl_cons, List.filterMap_cons]
    cases given : network.parameter? path name with
    | none =>
      have unmade : literalInput? description network path name = none := by simp [literalInput?, given]
      rw [ih node later distinct.2, unmade]
    | some value =>
      simp only
      cases converts :
          Literal.ofParameter? ((description.inputTypes.get? name).getD value.inferredType) value with
      | none =>
        have unmade : literalInput? description network path name = none := by
          simp [literalInput?, given, converts]
        rw [unmade]
        exact ih node later distinct.2
      | some literal =>
        have made := literalInput?_eq_some_iff.2 ⟨value, literal, given, converts, rfl⟩
        simp only [Node.setValue_of_absent (absent name List.mem_cons_self), made]
        rw [ih _ _ distinct.2, List.append_assoc, List.singleton_append]
        -- The new input has the name of the parameter, which none of the others has.
        intro other inside
        rw [List.map_append, List.mem_append, not_or]
        refine ⟨later other inside, fun new => distinct.1 ?_⟩
        obtain rfl : other = name := List.mem_singleton.1 new
        exact inside

/-- The inputs for the connections of a list whose sources exist. -/
def connectedInputs (description : NodeDescription) (network : Network)
    (connections : List (String × Connection)) : List Input :=
  connections.filterMap fun entry =>
    if network.hasNode entry.2.source then some (connectedInput description entry.1 entry.2) else none

/-- An input is there for each connection whose source exists, and for no other. -/
theorem mem_connectedInputs {description : NodeDescription} {network : Network}
    {connections : List (String × Connection)} {input : Input} :
    input ∈ connectedInputs description network connections ↔
      ∃ name connection, (name, connection) ∈ connections ∧ network.hasNode connection.source = true ∧
        input = connectedInput description name connection := by
  simp only [connectedInputs, List.mem_filterMap, Prod.exists]
  constructor
  · rintro ⟨name, connection, listed, made⟩
    -- Of the inputs that are made, each is for a connection whose source is there.
    split at made
    · rename_i present
      simp only [Option.some.injEq] at made
      exact ⟨name, connection, listed, present, made.symm⟩
    · simp at made
  · rintro ⟨name, connection, listed, present, rfl⟩
    exact ⟨name, connection, listed, by rw [if_pos present]⟩

/-- The inputs for connections stand in the order of the connections. -/
theorem names_connectedInputs_sublist (description : NodeDescription) (network : Network)
    (connections : List (String × Connection)) :
    ((connectedInputs description network connections).map (·.name)).Sublist (connections.map (·.1)) := by
  -- An input keeps the name of the connection that it is made from.
  refine map_filterMap_sublist _ _ _ (fun entry input made => ?_) connections
  split at made
  · exact Option.some.inj made ▸ rfl
  · simp at made

/-- Connecting a node puts in the inputs for its connections. -/
theorem withConnections_eq (description : NodeDescription) (network : Network) (path : String) (node : Node) :
    withConnections description network path node =
      (connectedInputs description network (network.inputs path)).foldl Node.putInput node := by
  unfold withConnections connectedInputs
  -- Passing a connection over in the fold is leaving it out before.
  rw [List.foldl_filterMap]
  congr 1
  funext node entry
  by_cases present : network.hasNode entry.2.source = true
  · simp only [present, if_true]
  · simp only [present, if_false, Bool.false_eq_true]

section nodeFor

variable (vocabulary : Vocabulary) (network : Network) (path : String)

/-- The node for a network node before it gets inputs. -/
def bareNode : Node :=
  let description := vocabulary.describe (network.typeOf path)
  { name := NodePath.leaf path
    category := description.category
    type := description.type
    definition := definitionOf (network.typeOf path)
    signature := description.signature }

/-- The inputs of a network node whose sources exist, as inputs of its document node. -/
def connectedInputsOf : List Input :=
  connectedInputs (vocabulary.describe (network.typeOf path)) network (network.inputs path)

/-- No two connected inputs have one name. -/
theorem names_connectedInputsOf_nodup :
    ((connectedInputsOf vocabulary network path).map (·.name)).Nodup :=
  -- They are some of the authored inputs, whose names are distinct.
  (names_connectedInputs_sublist _ network (network.inputs path)).nodup (network.inputNames_nodup path)

/-- The inputs for the parameters of a network node that are not connected. -/
def freeInputsOf : List Input :=
  (literalInputs (vocabulary.describe (network.typeOf path)) network path).filter fun input =>
    input.name ∉ (connectedInputsOf vocabulary network path).map (·.name)

/-- The document node is the bare one with the inputs for its free parameters and its connections, sorted by
the order of declaration. -/
theorem nodeFor_eq_sortInputs :
    nodeFor vocabulary network path =
      (vocabulary.describe (network.typeOf path)).sortInputs { bareNode vocabulary network path with
        inputs := freeInputsOf vocabulary network path ++ connectedInputsOf vocabulary network path } := by
  -- The literals come first, and the connections are put in one by one.
  have literals := withParameters_eq (vocabulary.describe (network.typeOf path)) network path
    (bareNode vocabulary network path) fun _ _ => List.not_mem_nil
  have inputs := Node.inputs_foldl_putInput { bareNode vocabulary network path with
      inputs := literalInputs (vocabulary.describe (network.typeOf path)) network path } _
    (names_connectedInputsOf_nodup vocabulary network path)
  -- Connections push out the literals of their names, and come behind the others.
  have connected : withConnections (vocabulary.describe (network.typeOf path)) network path
      (withParameters (vocabulary.describe (network.typeOf path)) network path
        (bareNode vocabulary network path)) =
      { bareNode vocabulary network path with
        inputs := freeInputsOf vocabulary network path ++ connectedInputsOf vocabulary network path } := by
    rw [literals, withConnections_eq, Node.foldl_putInput_eq]
    exact congrArg (fun inputs => { bareNode vocabulary network path with inputs }) inputs
  rw [← connected]
  rfl

/-- The document node is the bare one with inputs: literals that are not connected, and the connected
ones, in some order. -/
theorem nodeFor_eq :
    ∃ literals inputs : List Input,
      (∀ input ∈ literals,
        input.node = none ∧ input.name ∉ (connectedInputsOf vocabulary network path).map (·.name)) ∧
      (literals.map (·.name)).Nodup ∧
      inputs.Perm (literals ++ connectedInputsOf vocabulary network path) ∧
      nodeFor vocabulary network path = { bareNode vocabulary network path with inputs } := by
  -- The inputs with values come first, without those that a connection hides, and are then sorted with the others.
  refine ⟨freeInputsOf vocabulary network path, _, fun input inside => ?_, ?_, List.mergeSort_perm _ _,
    nodeFor_eq_sortInputs vocabulary network path⟩
  · obtain ⟨literal, free⟩ := List.mem_filter.1 inside
    obtain ⟨name, _, made⟩ := List.mem_filterMap.1 literal
    obtain ⟨_, _, _, _, rfl⟩ := literalInput?_eq_some_iff.1 made
    exact ⟨rfl, of_decide_eq_true free⟩
  · exact ((List.filter_sublist.map _).trans (names_literalInputs_sublist _ network path)).nodup
      (network.parameterNames_nodup path)

/-- The document node bears the leaf name. -/
@[simp] theorem name_nodeFor : (nodeFor vocabulary network path).name = NodePath.leaf path := by
  -- Inputs are added to a bare node that has the name.
  obtain ⟨_, _, _, _, _, made⟩ := nodeFor_eq vocabulary network path
  rw [made]
  rfl

/-- The document node is of the described category. -/
@[simp] theorem category_nodeFor :
    (nodeFor vocabulary network path).category = (vocabulary.describe (network.typeOf path)).category := by
  -- Inputs are added to a bare node that has the category.
  obtain ⟨_, _, _, _, _, made⟩ := nodeFor_eq vocabulary network path
  rw [made]
  rfl

/-- The document node declares the described plugs. -/
@[simp] theorem signature_nodeFor :
    (nodeFor vocabulary network path).signature = (vocabulary.describe (network.typeOf path)).signature := by
  -- Inputs are added to a bare node that has the signature.
  obtain ⟨_, _, _, _, _, made⟩ := nodeFor_eq vocabulary network path
  rw [made]
  rfl

/-- No two inputs of the document node have one name. -/
theorem distinct_nodeFor : (nodeFor vocabulary network path).Distinct := by
  obtain ⟨literals, inputs, free, distinct, order, made⟩ := nodeFor_eq vocabulary network path
  have connected := names_connectedInputsOf_nodup vocabulary network path
  rw [made]
  unfold Node.Distinct
  -- Sorting keeps the names, and literals have none of those of connections.
  rw [(order.map (·.name)).nodup_iff, List.map_append, List.nodup_append]
  refine ⟨distinct, connected, fun name literal other isConnected same => ?_⟩
  obtain ⟨input, inside, rfl⟩ := List.mem_map.1 literal
  exact (free input inside).2 (same ▸ isConnected)

/-- The inputs of the document node that read a node are those for the connections. -/
theorem mem_inputs_nodeFor_iff {input : Input} {source : String} :
    (input ∈ (nodeFor vocabulary network path).inputs ∧ input.node = some source) ↔
      ∃ name connection, network.input? path name = some connection ∧
        network.hasNode connection.source = true ∧ NodePath.leaf connection.source = source ∧
        input = connectedInput (vocabulary.describe (network.typeOf path)) name connection := by
  obtain ⟨literals, inputs, free, _, order, made⟩ := nodeFor_eq vocabulary network path
  have listed : input ∈ (nodeFor vocabulary network path).inputs ↔
      input ∈ literals ++ connectedInputsOf vocabulary network path := by
    rw [made]
    exact order.mem_iff
  -- The sorted inputs are the literals that are left and those for the connections.
  rw [listed, List.mem_append, connectedInputsOf, mem_connectedInputs]
  constructor
  · rintro ⟨literal | ⟨name, connection, there, present, rfl⟩, reads⟩
    -- Literals read nothing.
    · simp [(free input literal).1] at reads
    · exact ⟨name, connection, Network.mem_inputs_iff.1 there, present, Option.some.inj reads, rfl⟩
  · rintro ⟨name, connection, connected, present, rfl, rfl⟩
    exact ⟨.inr ⟨name, connection, Network.mem_inputs_iff.2 connected, present, rfl⟩, rfl⟩

/-- The document node reads the leaf names of the nodes that the network node reads. -/
theorem mem_sources_nodeFor_iff {source : String} :
    source ∈ (nodeFor vocabulary network path).sources ↔
      ∃ node, network.Reads path node ∧ NodePath.leaf node = source := by
  unfold Node.sources
  rw [List.mem_filterMap]
  -- Only the inputs for connections read a node.
  constructor
  · rintro ⟨input, inside, reads⟩
    obtain ⟨name, connection, connected, present, same, _⟩ :=
      (mem_inputs_nodeFor_iff vocabulary network path).1 ⟨inside, reads⟩
    exact ⟨connection.source, ⟨present, name, connection, connected, rfl⟩, same⟩
  · rintro ⟨node, ⟨present, name, connection, connected, rfl⟩, same⟩
    exact ⟨_, (mem_inputs_nodeFor_iff vocabulary network path).2
      ⟨name, connection, connected, present, same, rfl⟩⟩

/-- A connected input of the document node is the one for its connection. -/
theorem input?_nodeFor {name : String} {connection : Connection}
    (connected : network.input? path name = some connection)
    (present : network.hasNode connection.source = true) :
    (nodeFor vocabulary network path).input? name =
      some (connectedInput (vocabulary.describe (network.typeOf path)) name connection) := by
  -- No other input has the name, so it is enough that this one is listed.
  rw [Node.input?_eq_some_iff (distinct_nodeFor vocabulary network path)]
  refine ⟨?_, rfl⟩
  exact ((mem_inputs_nodeFor_iff vocabulary network path).2
    ⟨name, connection, connected, present, rfl, rfl⟩).1

end nodeFor

end Document

end ShadeBake

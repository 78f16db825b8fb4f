import ShadeBake.Conversion.Basic
import ShadeBake.Dict.Lemmas

/-! What every update of a network does to the types, connections and parameters that it holds. -/

namespace ShadeBake

namespace Network

/-- A changed record is held under its name, and all others stay. -/
theorem get?_modifyNode (network : Network) (node other : String) (change : Node → Node) :
    (network.modifyNode node change).nodes.get? other
      = if node = other then (network.nodes.get? other).map change else network.nodes.get? other :=
  -- A record that is missing stays so.
  Dict.get?_modify network.nodes node other change

/-- A record other than the one that is changed stays. -/
theorem get?_modifyNode_of_ne (network : Network) {node other : String} (change : Node → Node) (apart : other ≠ node) :
    (network.modifyNode node change).nodes.get? other = network.nodes.get? other := by
  -- The change is made at one name.
  rw [get?_modifyNode, if_neg (Ne.symm apart)]

/-- A record with a new type is held under its name, and all others stay. -/
theorem get?_setType (network : Network) (node type other : String) :
    (network.setType node type).nodes.get? other
      = if node = other then some { (network.nodes.get? node).getD .blank with type }
        else network.nodes.get? other :=
  -- A record is made where there was none.
  Dict.get?_insert network.nodes node other _

/-- A deleted node leaves no record, and all others stay. -/
theorem get?_deleteNode (network : Network) (node other : String) :
    (network.deleteNode node).nodes.get? other
      = if other = node then none else network.nodes.get? other :=
  -- One name is erased from the dictionary.
  Dict.get?_erase network.nodes node other

/-- The names of the nodes are those with a record. -/
theorem mem_nodeNames_iff {network : Network} {node : String} :
    node ∈ network.nodeNames ↔ (network.nodes.get? node).isSome = true :=
  -- The node names are the keys of the records.
  Dict.mem_keys_iff

/-- A node exists exactly if its type is not empty. -/
theorem hasNode_iff {network : Network} {node : String} :
    network.hasNode node = true ↔ network.typeOf node ≠ "" := by
  -- A record without a type counts as no node.
  simp [hasNode]

/-- Nodes of one type exist both or neither. -/
theorem hasNode_congr {network other : Network} {node : String}
    (same : network.typeOf node = other.typeOf node) : network.hasNode node = other.hasNode node := by
  -- Whether there is a node is told by its type.
  simp [hasNode, same]

/-- Where types and records agree, a node has the same type or is missing in both. -/
theorem type?_congr {network other : Network} {node : String}
    (types : other.typeOf node = network.typeOf node)
    (records : node ∈ other.nodeNames ↔ node ∈ network.nodeNames) :
    other.type? node = network.type? node := by
  rw [mem_nodeNames_iff, mem_nodeNames_iff] at records
  unfold typeOf at types
  unfold type? at types ⊢
  -- There is a record in both networks or in neither.
  cases record : network.nodes.get? node with
  | none =>
    cases record' : other.nodes.get? node with
    | none => rfl
    | some value => simp [record, record'] at records
  | some value =>
    cases record' : other.nodes.get? node with
    | none => simp [record, record'] at records
    | some value' => simpa [record, record'] using types

/-- A node that exists has the type that is its own. -/
theorem type?_of_hasNode {network : Network} {node : String} (present : network.hasNode node = true) :
    network.type? node = some (network.typeOf node) := by
  unfold typeOf
  cases typed : network.type? node with
  | some type => rfl
  -- Without a record its type would be empty.
  | none => simp [hasNode, typeOf, typed] at present

/-- A node with a connection has a record. -/
theorem mem_nodeNames_of_input? {network : Network} {node name : String} {connection : Connection}
    (connected : network.input? node name = some connection) : node ∈ network.nodeNames := by
  rw [mem_nodeNames_iff]
  cases record : network.nodes.get? node with
  | some value => rfl
  -- Without a record there would be no connection.
  | none => simp [input?, record] at connected

/-- The listed connections of a node are those that its inputs have. -/
theorem mem_inputs_iff {network : Network} {node name : String} {connection : Connection} :
    (name, connection) ∈ network.inputs node ↔ network.input? node name = some connection := by
  -- A node that is missing has no inputs.
  unfold inputs input?
  cases network.nodes.get? node with
  | none => simp
  | some record => exact Dict.mem_entries_iff

/-- A node whose listed connections do not read another one does not read that. -/
theorem source_ne_of_inputs {network : Network} {node other : String}
    (apart : ∀ entry ∈ network.inputs node, entry.2.source ≠ other) (name : String)
    (connection : Connection) (connected : network.input? node name = some connection) :
    connection.source ≠ other :=
  -- A look-up finds one of the listed connections.
  apart (name, connection) (mem_inputs_iff.2 connected)

/-- The listed inputs of a node are those with a connection. -/
theorem mem_inputNames_iff {network : Network} {node name : String} :
    name ∈ network.inputNames node ↔ ∃ connection, network.input? node name = some connection := by
  unfold inputNames
  rw [List.mem_map]
  -- A name is listed with its connection.
  constructor
  · rintro ⟨⟨_, connection⟩, member, rfl⟩
    exact ⟨connection, mem_inputs_iff.1 member⟩
  · rintro ⟨connection, connected⟩
    exact ⟨(name, connection), mem_inputs_iff.2 connected, rfl⟩

/-- The listed parameters of a node are those with a value. -/
theorem mem_parameterNames_iff {network : Network} {node name : String} :
    name ∈ network.parameterNames node ↔ ∃ value, network.parameter? node name = some value := by
  -- A node that is missing has no parameters.
  unfold parameterNames parameter?
  cases network.nodes.get? node with
  | none => simp
  | some record => exact Dict.mem_keys_iff.trans Option.isSome_iff_exists

/-- No parameter of a node is listed twice. -/
theorem parameterNames_nodup (network : Network) (node : String) : (network.parameterNames node).Nodup := by
  -- The names are the keys of the node's own dictionary.
  unfold parameterNames
  cases network.nodes.get? node with
  | none => simp
  | some record => exact Dict.keys_nodup record.parameters

/-- The inputs of a node are listed in the order of their names. -/
theorem inputNames_sorted (network : Network) (node : String) :
    (network.inputNames node).Pairwise (· < ·) := by
  -- The names are the keys of the node's own dictionary.
  unfold inputNames inputs
  cases network.nodes.get? node with
  | none => simp
  | some record => exact Dict.keys_sorted record.inputs

/-- No input of a node is listed twice. -/
theorem inputNames_nodup (network : Network) (node : String) : (network.inputNames node).Nodup :=
  -- The names are in strictly rising order.
  Dict.nodup_of_sorted (network.inputNames_sorted node)

/-! ### Changes to one record -/

section modifyNode

variable (network : Network) (node other slot : String) (change : Node → Node)

/-- A change to a record makes or takes away no record. -/
theorem mem_nodeNames_modifyNode :
    other ∈ (network.modifyNode node change).nodeNames ↔ other ∈ network.nodeNames := by
  -- A change to a record neither adds nor removes it.
  rw [mem_nodeNames_iff, mem_nodeNames_iff, get?_modifyNode]
  by_cases same : node = other
  · simp [same]
  · simp [same]

/-- What is seen of records stays if the change keeps it. -/
theorem view_modifyNode {β : Type} (view : Option Node → β)
    (keeps : ∀ record, view (some (change record)) = view (some record)) :
    view ((network.modifyNode node change).nodes.get? other) = view (network.nodes.get? other) := by
  rw [get?_modifyNode]
  by_cases same : node = other
  -- Only a record that is there is changed.
  · cases record : network.nodes.get? other with
    | none => simp
    | some value => simp [same, keeps]
  · simp [same]

/-- A change that keeps the type of a record keeps all types. -/
theorem typeOf_modifyNode (keeps : ∀ record, (change record).type = record.type) :
    (network.modifyNode node change).typeOf other = network.typeOf other :=
  -- The type is a view of the record, which the change keeps.
  view_modifyNode network node other change (fun record => (record.map Node.type).getD "")
    fun record => by simp [keeps]

/-- A change that keeps the parameters of a record keeps all parameters. -/
theorem parameter?_modifyNode (keeps : ∀ record, (change record).parameters = record.parameters) :
    (network.modifyNode node change).parameter? other slot = network.parameter? other slot :=
  -- A parameter is a view of the record, which the change keeps.
  view_modifyNode network node other change (fun record => record.bind (·.parameters.get? slot))
    fun record => by simp [keeps]

/-- A change that keeps the connections of a record keeps all connections. -/
theorem input?_modifyNode (keeps : ∀ record, (change record).inputs = record.inputs) :
    (network.modifyNode node change).input? other slot = network.input? other slot :=
  -- A connection is a view of the record, which the change keeps.
  view_modifyNode network node other change (fun record => record.bind (·.inputs.get? slot))
    fun record => by simp [keeps]

end modifyNode

/-! ### Types -/

section types

variable (network : Network) (node other name : String) (connection : Connection)

/-- A set type is the node's, and all other types stay. -/
theorem typeOf_setType (type : String) :
    (network.setType node type).typeOf other = if node = other then type else network.typeOf other := by
  -- A missing node is created with the type, so it has it in any case.
  unfold typeOf type?
  rw [get?_setType]
  by_cases same : node = other
  · simp [same]
  · simp [same]

/-- Connecting an input leaves all types. -/
@[simp] theorem typeOf_setInput :
    (network.setInput node name connection).typeOf other = network.typeOf other :=
  -- The type is no part of what is changed.
  typeOf_modifyNode network node other _ fun _ => rfl

/-- Disconnecting an input leaves all types. -/
@[simp] theorem typeOf_deleteInput :
    (network.deleteInput node name).typeOf other = network.typeOf other :=
  -- The type is no part of what is changed.
  typeOf_modifyNode network node other _ fun _ => rfl

/-- Stripping a node leaves all types. -/
@[simp] theorem typeOf_stripNode : (network.stripNode node).typeOf other = network.typeOf other :=
  -- The type is what a stripped node keeps.
  typeOf_modifyNode network node other _ fun _ => rfl

/-- Setting a parameter leaves all types. -/
@[simp] theorem typeOf_setParameter (value : Parameter) :
    (network.setParameter node name value).typeOf other = network.typeOf other :=
  -- The type is no part of what is changed.
  typeOf_modifyNode network node other _ fun _ => rfl

/-- Taking a parameter away leaves all types. -/
@[simp] theorem typeOf_deleteParameter :
    (network.deleteParameter node name).typeOf other = network.typeOf other :=
  -- The type is no part of what is changed.
  typeOf_modifyNode network node other _ fun _ => rfl

end types

/-! ### Connections -/

section connections

variable (network : Network) (node other name slot : String) (connection : Connection)

/-- A connected input of a node with a record has the connection, and all others stay. -/
theorem input?_setInput :
    (network.setInput node name connection).input? other slot
      = if node = other ∧ name = slot ∧ node ∈ network.nodeNames then some connection
        else network.input? other slot := by
  unfold setInput input?
  simp only [get?_modifyNode, mem_nodeNames_iff]
  by_cases same : node = other
  · subst same
    cases record : network.nodes.get? node with
    -- An unknown node stays unknown.
    | none => simp
    | some value =>
      by_cases here : name = slot
      · simp [Dict.get?_insert, here]
      · simp [Dict.get?_insert, here]
  · simp [same]

/-- A disconnected input has no connection, and all others stay. -/
theorem input?_deleteInput :
    (network.deleteInput node name).input? other slot
      = if node = other ∧ name = slot then none else network.input? other slot := by
  unfold deleteInput input?
  rw [get?_modifyNode]
  -- Both the node and the input must be the ones meant.
  by_cases same : node = other
  · subst same
    cases record : network.nodes.get? node with
    | none => simp
    | some value =>
      by_cases here : name = slot
      · simp [Dict.get?_erase, here]
      · simp [Dict.get?_erase, here, Ne.symm here]
  · simp [same]

/-- A stripped node has no connections, and all others stay. -/
theorem input?_stripNode :
    (network.stripNode node).input? other slot
      = if node = other then none else network.input? other slot := by
  unfold stripNode input?
  rw [get?_modifyNode]
  -- A node without a record has no connections anyway.
  by_cases same : node = other
  · subst same
    cases record : network.nodes.get? node with
    | none => simp
    | some value => simp
  · simp [same]

/-- Setting a type leaves all connections; a node that it makes has none. -/
@[simp] theorem input?_setType (type : String) :
    (network.setType node type).input? other slot = network.input? other slot := by
  unfold input?
  rw [get?_setType]
  -- A record keeps its inputs, and a new one is blank.
  by_cases same : node = other
  · subst same
    cases record : network.nodes.get? node with
    | none => simp [Node.blank]
    | some value => simp
  · simp [same]

/-- Setting a parameter leaves all connections. -/
@[simp] theorem input?_setParameter (value : Parameter) :
    (network.setParameter node name value).input? other slot = network.input? other slot :=
  -- Inputs and parameters are apart, even under one name.
  input?_modifyNode network node other slot _ fun _ => rfl

/-- Taking a parameter away leaves all connections. -/
@[simp] theorem input?_deleteParameter :
    (network.deleteParameter node name).input? other slot = network.input? other slot :=
  -- Inputs and parameters are apart, even under one name.
  input?_modifyNode network node other slot _ fun _ => rfl

end connections

/-! ### Parameters -/

section parameters

variable (network : Network) (node other name slot : String) (connection : Connection)

/-- Connecting an input leaves all parameters. -/
@[simp] theorem parameter?_setInput :
    (network.setInput node name connection).parameter? other slot = network.parameter? other slot :=
  -- The change is to the inputs of the record.
  parameter?_modifyNode network node other slot (fun record =>
    { record with inputs := record.inputs.insert name connection }) fun _ => rfl

/-- Disconnecting an input leaves all parameters. -/
@[simp] theorem parameter?_deleteInput :
    (network.deleteInput node name).parameter? other slot = network.parameter? other slot :=
  -- The change is to the inputs of the record.
  parameter?_modifyNode network node other slot (fun record =>
    { record with inputs := record.inputs.erase name }) fun _ => rfl

/-- A parameter that is set has its value if the node has a record, and all others stay. -/
theorem parameter?_setParameter (value : Parameter) :
    (network.setParameter node name value).parameter? other slot
      = if node = other ∧ name = slot ∧ node ∈ network.nodeNames then some value
        else network.parameter? other slot := by
  unfold setParameter parameter?
  simp only [get?_modifyNode, mem_nodeNames_iff]
  by_cases same : node = other
  · subst same
    cases record : network.nodes.get? node with
    -- An unknown node stays unknown.
    | none => simp
    | some found =>
      by_cases here : name = slot
      · simp [Dict.get?_insert, here]
      · simp [Dict.get?_insert, here]
  · simp [same]

/-- A parameter that is taken away has no value, and all others stay. -/
theorem parameter?_deleteParameter :
    (network.deleteParameter node name).parameter? other slot
      = if node = other ∧ name = slot then none else network.parameter? other slot := by
  unfold deleteParameter parameter?
  rw [get?_modifyNode]
  -- Both the node and the parameter must be the ones meant.
  by_cases same : node = other
  · subst same
    cases record : network.nodes.get? node with
    | none => simp
    | some found =>
      by_cases here : name = slot
      · simp [Dict.get?_erase, here]
      · simp [Dict.get?_erase, here, Ne.symm here]
  · simp [same]

/-- Setting a type leaves all parameters; a node that it makes has none. -/
@[simp] theorem parameter?_setType (type : String) :
    (network.setType node type).parameter? other slot = network.parameter? other slot := by
  unfold parameter?
  rw [get?_setType]
  -- A record keeps its parameters, and a new one is blank.
  by_cases same : node = other
  · subst same
    cases record : network.nodes.get? node with
    | none => simp [Node.blank]
    | some value => simp
  · simp [same]

/-- A stripped node has no parameters, and all others stay. -/
theorem parameter?_stripNode :
    (network.stripNode node).parameter? other slot
      = if node = other then none else network.parameter? other slot := by
  unfold stripNode parameter?
  rw [get?_modifyNode]
  -- A node without a record has no parameters anyway.
  by_cases same : node = other
  · subst same
    cases record : network.nodes.get? node with
    | none => simp
    | some value => simp
  · simp [same]

end parameters

/-! ### Records -/

section records

variable (network : Network) (node other name : String) (connection : Connection)

/-- Connecting an input makes no record. -/
@[simp] theorem mem_nodeNames_setInput :
    other ∈ (network.setInput node name connection).nodeNames ↔ other ∈ network.nodeNames :=
  -- A record is modified where it is, and none is made.
  mem_nodeNames_modifyNode network node other _

/-- Disconnecting an input takes away no record. -/
@[simp] theorem mem_nodeNames_deleteInput :
    other ∈ (network.deleteInput node name).nodeNames ↔ other ∈ network.nodeNames :=
  -- A record is modified where it is, and none is made.
  mem_nodeNames_modifyNode network node other _

/-- Stripping a node takes away no record. -/
@[simp] theorem mem_nodeNames_stripNode :
    other ∈ (network.stripNode node).nodeNames ↔ other ∈ network.nodeNames :=
  -- A record is modified where it is, and none is made.
  mem_nodeNames_modifyNode network node other _

/-- Setting a parameter makes no record. -/
@[simp] theorem mem_nodeNames_setParameter (value : Parameter) :
    other ∈ (network.setParameter node name value).nodeNames ↔ other ∈ network.nodeNames :=
  -- A record is modified where it is, and none is made.
  mem_nodeNames_modifyNode network node other _

/-- Taking a parameter away takes away no record. -/
@[simp] theorem mem_nodeNames_deleteParameter :
    other ∈ (network.deleteParameter node name).nodeNames ↔ other ∈ network.nodeNames :=
  -- A record is modified where it is, and none is made.
  mem_nodeNames_modifyNode network node other _

/-- A node whose type is set has a record, and no other record is made. -/
theorem mem_nodeNames_setType (type : String) :
    other ∈ (network.setType node type).nodeNames ↔ node = other ∨ other ∈ network.nodeNames := by
  -- A missing node is created.
  rw [mem_nodeNames_iff, mem_nodeNames_iff, get?_setType]
  by_cases same : node = other
  · simp [same]
  · simp [same]

end records

/-! ### Changes of connections or of parameters only -/

/-- Two networks have one frame when they have the same nodes, types and bindings. -/
structure SameFrame (network other : Network) : Prop where
  types : ∀ node, other.typeOf node = network.typeOf node
  records : ∀ node, node ∈ other.nodeNames ↔ node ∈ network.nodeNames
  bindings : other.terminals = network.terminals

/-- Two networks are alike when they differ in parameters only. -/
structure Alike (network other : Network) : Prop extends SameFrame network other where
  inputs : ∀ node name, other.input? node name = network.input? node name

/-- A network is another one reconnected when the two differ in connections only. -/
structure Reconnected (network other : Network) : Prop extends SameFrame network other where
  parameters : ∀ node name, other.parameter? node name = network.parameter? node name

/-- A network has its own frame. -/
theorem SameFrame.refl (network : Network) : SameFrame network network :=
  -- Nothing has changed.
  ⟨fun _ => rfl, fun _ => Iff.rfl, rfl⟩

/-- Networks that have one frame with a third have one frame. -/
theorem SameFrame.trans {first second third : Network} (front : SameFrame first second)
    (back : SameFrame second third) : SameFrame first third where
  -- What two steps leave, they leave one after the other.
  types node := (back.types node).trans (front.types node)
  records node := (back.records node).trans (front.records node)
  bindings := back.bindings.trans front.bindings

/-- A change to a record that keeps its type keeps the frame. -/
theorem sameFrame_modifyNode (network : Network) (node : String) (change : Node → Node)
    (keeps : ∀ record, (change record).type = record.type) :
    SameFrame network (network.modifyNode node change) :=
  -- Bindings are no part of a record.
  ⟨fun other => typeOf_modifyNode network node other change keeps,
    fun other => mem_nodeNames_modifyNode network node other change, rfl⟩

/-- A network is like itself. -/
theorem Alike.refl (network : Network) : Alike network network :=
  -- Nothing has changed.
  ⟨.refl network, fun _ _ => rfl⟩

/-- What is like a network like a third is like the third. -/
theorem Alike.trans {first second third : Network} (front : Alike first second) (back : Alike second third) :
    Alike first third :=
  -- The frame and each connection are carried through the network in the middle.
  ⟨front.toSameFrame.trans back.toSameFrame,
    fun node name => (back.inputs node name).trans (front.inputs node name)⟩

/-- A network is itself, reconnected nowhere. -/
theorem Reconnected.refl (network : Network) : Reconnected network network :=
  -- Nothing has changed.
  ⟨.refl network, fun _ _ => rfl⟩

/-- A network that is reconnected twice is reconnected. -/
theorem Reconnected.trans {first second third : Network} (front : Reconnected first second)
    (back : Reconnected second third) : Reconnected first third :=
  -- The frame and each parameter are carried through the network in the middle.
  ⟨front.toSameFrame.trans back.toSameFrame,
    fun node name => (back.parameters node name).trans (front.parameters node name)⟩

section frames

variable (network : Network) (node name : String)

/-- Setting a parameter changes parameters only. -/
theorem alike_setParameter (value : Parameter) : Alike network (network.setParameter node name value) :=
  -- Writing a parameter leaves types, records, bindings and inputs.
  ⟨sameFrame_modifyNode network node _ fun _ => rfl, fun _ _ => input?_setParameter ..⟩

/-- Taking a parameter away changes parameters only. -/
theorem alike_deleteParameter : Alike network (network.deleteParameter node name) :=
  -- Removing a parameter leaves types, records, bindings and inputs.
  ⟨sameFrame_modifyNode network node _ fun _ => rfl, fun _ _ => input?_deleteParameter ..⟩

/-- Connecting an input changes connections only. -/
theorem reconnected_setInput (connection : Connection) :
    Reconnected network (network.setInput node name connection) :=
  -- Writing an input leaves types, records, bindings and parameters.
  ⟨sameFrame_modifyNode network node _ fun _ => rfl, fun _ _ => parameter?_setInput ..⟩

/-- Disconnecting an input changes connections only. -/
theorem reconnected_deleteInput : Reconnected network (network.deleteInput node name) :=
  -- Removing an input leaves types, records, bindings and parameters.
  ⟨sameFrame_modifyNode network node _ fun _ => rfl, fun _ _ => parameter?_deleteInput ..⟩

end frames

end Network

end ShadeBake

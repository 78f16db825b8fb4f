import ShadeBake.Network.Form
import ShadeBake.Proofs.Json.Record
import ShadeBake.Proofs.Network.Update

/-! A network reads back from its JSON form when no plain value in it could be taken for a reference, and
every network that was read is such a one. -/

namespace ShadeBake

open Json (Tree)

namespace Connection

/-- A connection reads back from its JSON form, where there is room for it. -/
theorem ofTree?_toJson (connection : Connection) {room : Nat} (fits : connection.toJson.depth ≤ room) :
    ofTree? room connection.toJson.toTree = some connection := by
  -- A connection is written as an object, so there is room for at least one level.
  cases room with
  | zero => simp [toJson, Json.depth] at fits
  | succ room => rfl

end Connection

namespace AssetReference

/-- A reference reads back from its JSON form. -/
theorem ofTree?_toJson (reference : AssetReference) : ofTree? reference.toJson.toTree = some reference := by
  obtain ⟨authored, resolved⟩ := reference
  -- A path that was not resolved is left out, and read as none.
  cases resolved with
  | none => rfl
  | some path => rfl

/-- The JSON form of a reference is in order. -/
theorem inOrder_toJson (reference : AssetReference) : reference.toJson.InOrder := by
  -- The fields of a record are written in the order of their names.
  obtain ⟨authored, resolved⟩ := reference
  have inner : ∀ texts : Dict String, (Json.ofDict (texts.mapWithKey fun _ text => .string text)).InOrder := by
    intro texts
    apply Json.InOrder.object
    intro name value held
    rw [Dict.get?_mapWithKey, Option.map_eq_some_iff] at held
    obtain ⟨text, _, rfl⟩ := held
    exact .string text
  cases resolved with
  | none => exact inner ⟨[("asset", authored)], List.pairwise_singleton _ _⟩
  | some path =>
    have order : "asset" < "resolvedPath" := by decide
    exact inner ⟨[("asset", authored), ("resolvedPath", path)], List.pairwise_pair.2 order⟩

/-- The JSON form of a reference is one object. -/
theorem depth_toJson (reference : AssetReference) : reference.toJson.depth = 1 := by
  -- Both forms are objects that hold strings only.
  obtain ⟨authored, resolved⟩ := reference
  cases resolved with
  | none => rfl
  | some path => rfl

/-- A form without repeated names is read as the same reference as the written form of its value. -/
theorem ofTree?_toTree {tree : Tree} (unique : tree.NamesUnique) {room : Nat} {value : Json}
    (held : tree.value? room = some value) : ofTree? value.toTree = ofTree? tree := by
  -- Only the two fields are looked at, and each is read alike from a tree and from its settled form.
  have related := Tree.rel_fields? unique held ["asset", "resolvedPath"]
  unfold ofTree?
  generalize tree.fields? ["asset", "resolvedPath"] = fields at related ⊢
  generalize value.toTree.fields? ["asset", "resolvedPath"] = settled at related ⊢
  cases related with
  | none => rfl
  | some related =>
    cases related with
    | nil => rfl
    | cons authored related =>
      cases related with
      | nil => rfl
      | cons resolved related =>
        cases related with
        | nil =>
          simp only [Option.bind_eq_bind, Option.bind_some, Tree.required_of_rel authored,
            Tree.defaulted_of_rel resolved]
        | cons another related => rfl

end AssetReference

namespace Parameter

/-- A parameter is genuine when it reads back as what it is: a plain value is in order, and is not read as a
reference. -/
def Genuine : Parameter → Prop
  | .asset _ => True
  | .plain value => value.InOrder ∧ AssetReference.ofTree? value.toTree = none

/-- A genuine parameter reads back from its JSON form, where there is room for it. -/
theorem Genuine.ofTree?_toJson {parameter : Parameter} (genuine : parameter.Genuine) {room : Nat}
    (fits : parameter.toJson.depth ≤ room) : ofTree? room parameter.toJson.toTree = some parameter := by
  -- A parameter is read as an asset first, which a genuine plain value is not.
  cases parameter with
  | asset reference =>
    simp only [toJson] at fits ⊢
    simp only [ofTree?, Json.value?_toTree reference.inOrder_toJson fits, reference.ofTree?_toJson]
    rfl
  | plain value =>
    obtain ⟨ordered, plain⟩ := genuine
    simp only [toJson] at fits ⊢
    simp only [ofTree?, Json.value?_toTree ordered fits, plain]
    rfl

/-- A parameter that was read from a form without repeated names is genuine. -/
theorem genuine_of_ofTree? {tree : Tree} (unique : tree.NamesUnique) {room : Nat} {parameter : Parameter}
    (read : ofTree? room tree = some parameter) :
    parameter.Genuine ∧ parameter.toJson.depth ≤ max room 1 := by
  -- The node was read from a member of the field for nodes, and the parameter from the node.
  simp only [ofTree?, Option.bind_eq_bind, Option.bind_eq_some_iff] at read
  obtain ⟨value, held, read⟩ := read
  -- Whether the form or its value is read as a reference makes no difference.
  rw [← AssetReference.ofTree?_toTree unique held] at read
  cases found : AssetReference.ofTree? value.toTree with
  | some reference =>
    simp only [found, Option.pure_def, Option.some_inj] at read
    subst read
    exact ⟨trivial, reference.depth_toJson ▸ Nat.le_max_right room 1⟩
  | none =>
    simp only [found, Option.pure_def, Option.some_inj] at read
    subst read
    obtain ⟨ordered, fits⟩ := Json.of_value? held
    exact ⟨⟨ordered, found⟩, Nat.le_trans fits (Nat.le_max_left room 1)⟩

end Parameter

namespace Network

/-- A node with genuine parameters reads back from its JSON form, where there is room for it. -/
theorem Node.ofTree?_toJson {node : Node}
    (genuine : ∀ name parameter, node.parameters.get? name = some parameter → parameter.Genuine) {room : Nat}
    (fits : node.toJson.depth ≤ room) : Node.ofTree? room node.toJson.toTree = some node := by
  cases room with
  | zero => simp [toJson, Json.depth] at fits
  | succ left =>
    simp only [toJson, Json.depth, Json.depthOfMembers, Nat.add_le_add_iff_right, Nat.max_le] at fits
    -- Parameters and connections read back each on their own.
    have parameters := Json.nested_dict?_toTree fits.2.1 fun room name parameter held fits =>
      (genuine name parameter held).ofTree?_toJson fits
    have inputs := Json.nested_dict?_toTree fits.2.2.1 fun room name connection _ fits =>
      connection.ofTree?_toJson fits
    -- All three fields are written, and are read in their order.
    have fields : node.toJson.toTree.fields? ["type", "parameters", "inputConnections"] = some [
        some (.string (some node.type)),
        some (Json.ofDict (node.parameters.mapWithKey fun _ parameter => parameter.toJson)).toTree,
        some (Json.ofDict (node.inputs.mapWithKey fun _ connection => connection.toJson)).toTree] := rfl
    simp only [ofTree?, Tree.nested_succ, fields, Option.bind_eq_bind, Option.bind_some, Tree.required,
      Tree.defaulted, parameters, inputs]
    rfl

/-- A network with genuine parameters reads back from its JSON form, where there is room for it. -/
theorem ofTree?_toJson {network : Network}
    (genuine : ∀ node name parameter, network.parameter? node name = some parameter → parameter.Genuine)
    {room : Nat} (fits : network.toJson.depth ≤ room) :
    ofTree? room network.toJson.toTree = some network := by
  cases room with
  | zero => simp [toJson, Json.depth] at fits
  | succ left =>
    simp only [toJson, Json.depth, Json.depthOfMembers, Nat.add_le_add_iff_right, Nat.max_le] at fits
    -- Each part of the record reads back on its own.
    have nodes := Json.nested_dict?_toTree fits.2.1 fun room name node held fits =>
      Node.ofTree?_toJson (fun slot parameter given =>
        genuine name slot parameter (by rw [parameter?, held, Option.bind_some, given])) fits
    have terminals := Json.nested_dict?_toTree fits.2.2.1 fun room name connection _ fits =>
      connection.ofTree?_toJson fits
    have fields : network.toJson.toTree.fields? ["materialPath", "nodes", "terminals"] = some [
        some (.string (some network.materialPath)),
        some (Json.ofDict (network.nodes.mapWithKey fun _ node => node.toJson)).toTree,
        some (Json.ofDict (network.terminals.mapWithKey fun _ connection => connection.toJson)).toTree] :=
      rfl
    simp only [ofTree?, Tree.nested_succ, fields, Option.bind_eq_bind, Option.bind_some, Tree.defaulted, nodes,
      terminals]
    rfl

/-- A node is nested as deep as its parameters, and at most three levels without them. -/
theorem Node.depth_toJson_le {node : Node} {bound : Nat} (enough : 1 ≤ bound)
    (shallow : ∀ name parameter, node.parameters.get? name = some parameter → parameter.toJson.depth ≤ bound) :
    node.toJson.depth ≤ bound + 2 := by
  -- A node is an object of objects, and its connections are the shallowest of its parts.
  have parameters := Json.depth_mapWithKey_le_iff.2 shallow
  have inputs : (Json.ofDict (node.inputs.mapWithKey fun _ connection => connection.toJson)).depth ≤ bound + 1 :=
    Json.depth_mapWithKey_le_iff.2 fun _ _ _ => enough
  simp only [toJson, Json.depth, Json.depthOfMembers]
  omega

/-- A network is nested as deep as the parameters of its nodes, and at most five levels without them. -/
theorem depth_toJson_le {network : Network} {bound : Nat} (enough : 1 ≤ bound)
    (shallow : ∀ node name parameter, network.parameter? node name = some parameter →
      parameter.toJson.depth ≤ bound) : network.toJson.depth ≤ bound + 4 := by
  -- The nodes take up two levels more than a node's own parts.
  have nodes : (Json.ofDict (network.nodes.mapWithKey fun _ node => node.toJson)).depth ≤ bound + 3 := by
    refine Json.depth_mapWithKey_le_iff.2 fun name node known => ?_
    refine Node.depth_toJson_le enough fun slot parameter given => shallow name slot parameter ?_
    rw [parameter?, known, Option.bind_some, given]
  have terminals :
      (Json.ofDict (network.terminals.mapWithKey fun _ connection => connection.toJson)).depth ≤ bound + 3 :=
    Json.depth_mapWithKey_le_iff.2 fun _ _ _ => Nat.le_trans enough (Nat.le_add_right bound 2)
  simp only [toJson, Json.depth, Json.depthOfMembers]
  omega

/-- The parameters of a node that was read from a form without repeated names are genuine. -/
theorem Node.genuine_of_ofTree? {tree : Tree} (unique : tree.NamesUnique) {room : Nat} {node : Node}
    (read : Node.ofTree? room tree = some node) {name : String} {parameter : Parameter}
    (given : node.parameters.get? name = some parameter) :
    parameter.Genuine ∧ parameter.toJson.depth ≤ max (room - 2) 1 := by
  -- The parameter was read from a member of the field for parameters, two levels down.
  cases room with
  | zero => simp [ofTree?, Tree.nested] at read
  | succ left =>
    simp only [ofTree?, Tree.nested_succ, Option.bind_eq_bind, Option.bind_eq_some_iff] at read
    obtain ⟨fields, found, read⟩ := read
    -- Only a record of the three fields is read as a node.
    split at read
    · rename_i type parameters inputs
      simp only [Option.bind_eq_some_iff] at read
      obtain ⟨_, _, held, stored, _, _, made⟩ := read
      cases made
      obtain ⟨deeper, item, rfl, single, one⟩ :=
        Tree.of_defaulted_dict? unique found (by simp) stored given
      exact Parameter.genuine_of_ofTree? single one
    · simp at read

/-- The parameters in a network that was read from a form without repeated names are genuine. -/
theorem genuine_of_ofTree? {tree : Tree} (unique : tree.NamesUnique) {room : Nat} {network : Network}
    (read : ofTree? room tree = some network) {node name : String} {parameter : Parameter}
    (given : network.parameter? node name = some parameter) :
    parameter.Genuine ∧ parameter.toJson.depth ≤ max (room - 4) 1 := by
  cases room with
  | zero => simp [ofTree?, Tree.nested] at read
  | succ left =>
    simp only [ofTree?, Tree.nested_succ, Option.bind_eq_bind, Option.bind_eq_some_iff] at read
    obtain ⟨fields, found, read⟩ := read
    obtain ⟨record, known, listed⟩ := Option.bind_eq_some_iff.1 given
    -- Only a record of the three fields is read, and the node's parameters come from its second.
    split at read
    · rename_i materialPath nodes terminals
      simp only [Option.bind_eq_some_iff] at read
      obtain ⟨_, _, held, stored, _, _, made⟩ := read
      cases made
      obtain ⟨deeper, item, rfl, single, one⟩ :=
        Tree.of_defaulted_dict? unique found (by simp) stored known
      exact Node.genuine_of_ofTree? single one listed
    · simp at read

end Network

end ShadeBake

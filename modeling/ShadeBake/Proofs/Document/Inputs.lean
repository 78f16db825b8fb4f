import ShadeBake.Proofs.Document.Correspondence

/-! The inputs of a built node: one for each connection to an existing node and one for each other parameter that
has a literal, the declared ones first and in the order of declaration. -/

namespace ShadeBake

/-- A list in the order of a rank has all elements of a rank below a bound in front of the others. -/
theorem exists_front_of_ranked {α : Type} {rank : α → Nat} {list : List α}
    (ranked : list.Pairwise fun a b => rank a ≤ rank b) (bound : Nat) :
    ∃ front back, list = front ++ back ∧ (∀ a ∈ front, rank a < bound) ∧ ∀ a ∈ back, bound ≤ rank a := by
  induction list with
  | nil => exact ⟨[], [], rfl, by simp, by simp⟩
  | cons head rest ih =>
    rw [List.pairwise_cons] at ranked
    by_cases below : rank head < bound
    · obtain ⟨front, back, rfl, less, more⟩ := ih ranked.2
      exact ⟨head :: front, back, rfl, by simpa using ⟨below, less⟩, more⟩
    -- From the first element that is not below the bound on, none is.
    · refine ⟨[], head :: rest, rfl, by simp, fun a inside => ?_⟩
      rcases List.mem_cons.1 inside with rfl | later
      · exact Nat.le_of_not_lt below
      · exact (Nat.le_of_not_lt below).trans (ranked.1 a later)

namespace Document

section nodeFor

variable {vocabulary : Vocabulary} {network : Network} {path : String}

/-- An input is connected when a connection of that name leads to an existing node. -/
def IsConnected (network : Network) (path name : String) : Prop :=
  ∃ connection, network.input? path name = some connection ∧ network.hasNode connection.source = true

/-- The names of the connected inputs are those of the connections to existing nodes. -/
theorem mem_names_connectedInputsOf_iff {name : String} :
    name ∈ (connectedInputsOf vocabulary network path).map (·.name) ↔ IsConnected network path name := by
  -- There is one input for each connection whose source is present.
  simp only [List.mem_map, connectedInputsOf, mem_connectedInputs, Network.mem_inputs_iff]
  constructor
  · rintro ⟨_, ⟨name, connection, connected, present, rfl⟩, rfl⟩
    exact ⟨connection, connected, present⟩
  · rintro ⟨connection, connected, present⟩
    exact ⟨_, ⟨name, connection, connected, present, rfl⟩, rfl⟩

/-- The inputs of a document node are those for its free parameters and its connections. -/
theorem mem_inputs_nodeFor {input : Input} :
    input ∈ (nodeFor vocabulary network path).inputs ↔
      input ∈ freeInputsOf vocabulary network path ∨ input ∈ connectedInputsOf vocabulary network path := by
  -- Sorting the inputs keeps them all.
  rw [nodeFor_eq_sortInputs, ← List.mem_append]
  exact List.mem_mergeSort

/-- A parameter is free when the input of its name is not connected. -/
theorem mem_freeInputsOf_iff {input : Input} :
    input ∈ freeInputsOf vocabulary network path ↔
      literalInput? (vocabulary.describe (network.typeOf path)) network path input.name = some input ∧
        ¬IsConnected network path input.name := by
  -- An input with a value is left out where a connection has its name.
  simp only [freeInputsOf, literalInputs, List.mem_filter, List.mem_filterMap, decide_eq_true_eq,
    mem_names_connectedInputsOf_iff]
  refine and_congr_left fun _ => ⟨?_, fun made => ⟨input.name, ?_, made⟩⟩
  · rintro ⟨name, _, made⟩
    exact (name_of_literalInput? made).symm ▸ made
  · obtain ⟨value, _, given, _, _⟩ := literalInput?_eq_some_iff.1 made
    exact Network.mem_parameterNames_iff.2 ⟨value, given⟩

/-- A document node has an input for each connected one and for each parameter that has a literal. -/
theorem mem_names_inputs_nodeFor_iff {name : String} :
    name ∈ (nodeFor vocabulary network path).inputs.map (·.name) ↔
      IsConnected network path name ∨
        ∃ input, literalInput? (vocabulary.describe (network.typeOf path)) network path name = some input := by
  by_cases connected : IsConnected network path name
  · obtain ⟨input, inside, rfl⟩ := List.mem_map.1 (mem_names_connectedInputsOf_iff.2 connected)
    exact iff_of_true (List.mem_map_of_mem (mem_inputs_nodeFor.2 (.inr inside))) (.inl connected)
  rw [or_iff_right connected]
  constructor
  · intro listed
    obtain ⟨input, inside, rfl⟩ := List.mem_map.1 listed
    -- An input of a name that is not connected is that for a parameter.
    rcases mem_inputs_nodeFor.1 inside with free | other
    · exact ⟨input, (mem_freeInputsOf_iff.1 free).1⟩
    · exact absurd (mem_names_connectedInputsOf_iff.1 (List.mem_map_of_mem other)) connected
  · rintro ⟨input, made⟩
    obtain rfl := name_of_literalInput? made
    exact List.mem_map_of_mem (mem_inputs_nodeFor.2 (.inl (mem_freeInputsOf_iff.2 ⟨made, connected⟩)))

/-- The input for a free parameter with a literal is that with the literal. -/
theorem input?_nodeFor_of_free {name : String} {input : Input}
    (free : ¬IsConnected network path name)
    (made : literalInput? (vocabulary.describe (network.typeOf path)) network path name = some input) :
    (nodeFor vocabulary network path).input? name = some input := by
  obtain rfl := name_of_literalInput? made
  -- No other input has the name, so it is enough that this one is listed.
  rw [Node.input?_eq_some_iff (distinct_nodeFor vocabulary network path)]
  exact ⟨mem_inputs_nodeFor.2 (.inl (mem_freeInputsOf_iff.2 ⟨made, free⟩)), rfl⟩

/-- The inputs of a document node stand in the order of their ranks. -/
theorem inputs_nodeFor_ranked (vocabulary : Vocabulary) (network : Network) (path : String) :
    (nodeFor vocabulary network path).inputs.Pairwise fun first second =>
      (vocabulary.describe (network.typeOf path)).rank first.name ≤
        (vocabulary.describe (network.typeOf path)).rank second.name := by
  -- The inputs are sorted by their rank, which is a number.
  rw [nodeFor_eq_sortInputs]
  refine (List.pairwise_mergeSort (fun a b c first second => ?_) (fun a b => ?_) _).imp of_decide_eq_true
  · exact decide_eq_true ((of_decide_eq_true first).trans (of_decide_eq_true second))
  · simpa using Nat.le_total _ _

/-- The declared inputs of a document node come first, in the order of declaration. -/
theorem exists_declared_nodeFor :
    let order := (vocabulary.describe (network.typeOf path)).inputOrder
    ∃ declared undeclared, (nodeFor vocabulary network path).inputs = declared ++ undeclared ∧
      (∀ input ∈ declared, input.name ∈ order) ∧
      declared.Pairwise (fun first second => order.idxOf first.name < order.idxOf second.name) ∧
      ∀ input ∈ undeclared, input.name ∉ order := by
  intro order
  have ranked := inputs_nodeFor_ranked vocabulary network path
  have distinct := distinct_nodeFor vocabulary network path
  -- Undeclared inputs have the length of the order for their rank.
  obtain ⟨declared, undeclared, split, less, more⟩ := exists_front_of_ranked ranked order.length
  have known : ∀ input ∈ declared, input.name ∈ order := fun input inside =>
    List.idxOf_lt_length_iff.1 (less input inside)
  unfold Node.Distinct at distinct
  rw [split, List.map_append, List.nodup_append, List.nodup_iff_pairwise_ne, List.pairwise_map] at distinct
  rw [split, List.pairwise_append] at ranked
  refine ⟨declared, undeclared, split, known, ?_, fun input inside isKnown => ?_⟩
  -- Ranks that are not equal are less, and equal ranks would be of one name.
  · refine (ranked.1.and distinct.1).imp_of_mem fun first second both => ?_
    exact Nat.lt_of_le_of_ne both.1 fun same => both.2 ((List.idxOf_inj (known _ first)).1 same)
  · exact absurd (more input inside) (Nat.not_le.2 (List.idxOf_lt_length_iff.2 isKnown))

end nodeFor

/-- The inputs of a built node. The node for a path that is reached has no input twice; it has one for each
connection to an existing node and for each parameter that has a literal, and no others; a connected one reads
the leaf and the output of its source and has no literal, whatever parameter has its name, and any other one has
the literal and reads nothing. Those that the node's type declares come first, in the order of declaration. -/
theorem build_inputs (vocabulary : Vocabulary) (network : Network) (terminal : String) (names : List String)
    {path : String} (reached : DocumentBuilder.Reached network terminal names path) :
    let built := build vocabulary network terminal names
    let place := built.place (NodePath.materialName network.materialPath)
      (DocumentBuilder.visited network terminal [] names)
    let description := vocabulary.describe (network.typeOf path)
    let typeOf (name : String) (value : Parameter) : String :=
      (description.inputTypes.get? name).getD value.inferredType
    ∃ node, built.document.nodeAt? (place path) = some node ∧ (node.inputs.map (·.name)).Nodup ∧
      (∀ name, name ∈ node.inputs.map (·.name) ↔
        (∃ connection, network.input? path name = some connection ∧
          network.hasNode connection.source = true) ∨
        ∃ value literal, network.parameter? path name = some value ∧
          Literal.ofParameter? (typeOf name value) value = some literal) ∧
      (∀ name connection, network.input? path name = some connection →
        network.hasNode connection.source = true →
        node.input? name = some {
          name
          type := (description.inputTypes.get? name).getD ""
          value := none
          node := some (NodePath.leaf connection.source)
          output := if connection.output = "" ∨ connection.output = "out" then none
            else some connection.output }) ∧
      (∀ name value literal, (∀ connection, network.input? path name = some connection →
          network.hasNode connection.source = false) →
        network.parameter? path name = some value →
        Literal.ofParameter? (typeOf name value) value = some literal →
        node.input? name =
          some { name, type := typeOf name value, value := some literal, node := none, output := none }) ∧
      ∃ declared undeclared, node.inputs = declared ++ undeclared ∧
        (∀ input ∈ declared, input.name ∈ description.inputOrder) ∧
        declared.Pairwise (fun first second =>
          description.inputOrder.idxOf first.name < description.inputOrder.idxOf second.name) ∧
        ∀ input ∈ undeclared, input.name ∉ description.inputOrder := by
  intro built place description typeOf
  -- The node at the place is the one that the network has at the path, whose inputs are known name by name.
  obtain ⟨holds, _, visits⟩ := build_holds vocabulary network terminal names
  refine ⟨nodeFor vocabulary network path, ?_, distinct_nodeFor vocabulary network path, fun name => ?_,
    fun name connection connected present => ?_, fun name value literal free given converts => ?_,
    exists_declared_nodeFor⟩
  · rw [holds.nodeAt?_eq, holds.turn ((visits path).2 reached), Option.map_some]
  · rw [mem_names_inputs_nodeFor_iff]
    -- An input without a usable connection exists exactly if its value converts.
    refine or_congr_right ⟨fun ⟨input, made⟩ => ?_, fun ⟨value, literal, given, converts⟩ => ?_⟩
    · obtain ⟨value, literal, given, converts, _⟩ := literalInput?_eq_some_iff.1 made
      exact ⟨value, literal, given, converts⟩
    · exact ⟨_, literalInput?_eq_some_iff.2 ⟨value, literal, given, converts, rfl⟩⟩
  · rw [input?_nodeFor vocabulary network path connected present]
    simp only [connectedInput, Bool.or_eq_true, decide_eq_true_eq]
    rfl
  · refine input?_nodeFor_of_free (fun ⟨connection, connected, present⟩ => ?_)
      (literalInput?_eq_some_iff.2 ⟨value, literal, given, converts, rfl⟩)
    simp [free connection connected] at present

namespace Overlapping

/-- A node whose parameters and connections have names in common, one of which leads to no node. -/
def network : Network where
  materialPath := "/M"
  nodes := Dict.ofList [
    ("/M/g/n", ⟨"mixed",
      Dict.ofList [("b", .plain (.string "hidden")), ("c", .plain (.string "kept")), ("u", .plain (.bool true)),
        ("x", .plain .null)],
      Dict.ofList [("b", ⟨"/M/g/s", "outr"⟩), ("c", ⟨"/M/g/lost", "out"⟩), ("v", ⟨"/M/g/s", "out"⟩)]⟩),
    ("/M/g/s", ⟨"split", Dict.empty, Dict.empty⟩),
    ("/M/t", ⟨"surface", Dict.empty, Dict.ofList [("base", ⟨"/M/g/n", "out"⟩)]⟩)]
  terminals := Dict.empty

/-- A library that declares two of the inputs, in another order than that of their names. -/
def vocabulary : Vocabulary where
  registry := Registry.empty
  library := {
    searchPaths := []
    definitions := Dict.ofList [("mixed", {
      name := "mixed", category := "mix", type := "color3"
      inputs := [("c", "string"), ("b", "float")]
      outputs := [("out", "color3")]
      inputValues := Dict.empty })] }

/-- The connection hides the literal of its name, and only where it leads to a node; what has no literal makes no
input. -/
theorem connection_hides :
    DocumentBuilder.Reached network "/M/t" ["base"] "/M/g/n" ∧
    ∃ node place, (build vocabulary network "/M/t" ["base"]).document.nodeAt? place = some node ∧
      node.input? "b" = some { name := "b", type := "float", node := some "s", output := some "outr" } ∧
      node.input? "c" = some { name := "c", type := "string", value := some (.string "kept") } ∧
      node.input? "u" = some { name := "u", type := "boolean", value := some (.boolean true) } ∧
      node.input? "v" = some { name := "v", type := "", node := some "s" } ∧
      "x" ∉ node.inputs.map (·.name) := by
  -- Each input is read at its own clause of the general statement.
  have reached : DocumentBuilder.Reached network "/M/t" ["base"] "/M/g/n" :=
    ⟨"base", List.mem_cons_self, ⟨"/M/g/n", "out"⟩, by decide, by decide, .refl⟩
  obtain ⟨node, there, _, names, connected, free, _⟩ :=
    build_inputs vocabulary network "/M/t" ["base"] reached
  -- The connection of this input dangles, so that its value is used.
  have lost : ∀ connection, network.input? "/M/g/n" "c" = some connection →
      network.hasNode connection.source = false := by
    intro connection same
    obtain rfl : (⟨"/M/g/lost", "out"⟩ : Connection) = connection := Option.some.inj same
    decide
  refine ⟨reached, node, _, there, ?_, ?_, ?_, ?_, ?_⟩
  · exact connected "b" ⟨"/M/g/s", "outr"⟩ (by decide) (by decide)
  · exact free "c" (.plain (.string "kept")) (.string "kept") lost rfl rfl
  · exact free "u" (.plain (.bool true)) (.boolean true) (fun _ none => nomatch none) rfl rfl
  · exact connected "v" ⟨"/M/g/s", "out"⟩ (by decide) (by decide)
  · rw [names]
    rintro (⟨_, none, _⟩ | ⟨value, literal, given, converts⟩)
    · exact nomatch none
    · obtain rfl : Parameter.plain .null = value := Option.some.inj given
      exact nomatch converts

end Overlapping

end Document

end ShadeBake

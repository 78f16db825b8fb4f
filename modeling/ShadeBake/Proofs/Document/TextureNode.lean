import ShadeBake.Proofs.Document.Node
import ShadeBake.Proofs.Document.Routing
import ShadeBake.Shader.Order

/-! What routing makes of a texture node: it sets the file, has the coordinates come from where they did or
from a new node, and leaves all other inputs alone. -/

namespace ShadeBake

namespace Document

section modifyFirst

variable {α : Type} {pick : α → Bool} {change : α → α} (keeps : ∀ a, pick (change a) = pick a)

include keeps

/-- The first picked element is the one that was changed. -/
theorem find?_modifyFirst (list : List α) :
    (modifyFirst pick change list).find? pick = (list.find? pick).map change := by
  -- The change keeps the test, so the search ends at the same place.
  induction list with
  | nil => rfl
  | cons head rest ih =>
    rw [modifyFirst, List.find?_cons]
    cases picked : pick head with
    | true => simp [keeps, picked]
    | false => simp [picked, ih]

/-- Without the first picked element, a list in which it was changed is as it was. -/
theorem eraseP_modifyFirst (list : List α) :
    (modifyFirst pick change list).eraseP pick = list.eraseP pick := by
  -- The element that was changed is the one that is erased.
  induction list with
  | nil => rfl
  | cons head rest ih =>
    rw [modifyFirst]
    cases picked : pick head with
    | true => simp [keeps, picked]
    | false => simp [picked, ih]

end modifyFirst

/-- A search finds the same without an element that it does not look for. -/
theorem find?_eraseP {α : Type} {pick wanted : α → Bool} (apart : ∀ a, pick a = true → wanted a = false)
    (list : List α) : (list.eraseP pick).find? wanted = list.find? wanted := by
  -- What is erased is not wanted.
  induction list with
  | nil => rfl
  | cons head rest ih =>
    cases picked : pick head with
    | true => simp [picked, apart head picked]
    | false => simp only [List.eraseP_cons, picked, cond_false, List.find?_cons, ih]

/-- What is made of a list is made of its first picked element or of the others. -/
theorem mem_filterMap_iff_eraseP {α β : Type} {make : α → Option β} (pick : α → Bool) {list : List α} {b : β} :
    b ∈ list.filterMap make ↔
      (list.find? pick).bind make = some b ∨ b ∈ (list.eraseP pick).filterMap make := by
  -- The element that the test picks is looked at on its own, and the others are left.
  induction list with
  | nil => simp
  | cons head rest ih =>
    rw [List.mem_filterMap] at ih ⊢
    cases picked : pick head with
    | true => simp [picked]
    | false => simp [picked, ih, or_left_comm]

namespace Node

/-- A node gains an input under a name when it has that one for the first of the name, and is as it was
besides. -/
structure Gains (name : String) (input : Input) (before after : Node) : Prop where
  same : after = { before with inputs := after.inputs }
  given : after.input? name = some input
  others : after.inputs.eraseP (·.name = name) = before.inputs.eraseP (·.name = name)

namespace Gains

variable {name : String} {input : Input} {before after : Node}

/-- A node gains what it has. -/
theorem refl (given : before.input? name = some input) : Gains name input before before :=
  -- The node has the input already.
  ⟨rfl, given, rfl⟩

/-- Of two inputs that are gained under one name, the later one counts. -/
theorem trans {first : Input} {middle : Node} (gains : Gains name first before middle)
    (later : Gains name input middle after) : Gains name input before after where
  -- The second change covers what the first one gave.
  same := by rw [later.same, gains.same]
  given := later.given
  others := later.others.trans gains.others

/-- The name of the node stays. -/
theorem name_eq (gains : Gains name input before after) : after.name = before.name := by
  -- The two nodes differ in their inputs only.
  rw [gains.same]

/-- The inputs of other names stay. -/
theorem input?_eq (gains : Gains name input before after) {other : String} (apart : other ≠ name) :
    after.input? other = before.input? other := by
  have passes : ∀ input : Input, decide (input.name = name) = true → decide (input.name = other) = false :=
    fun input named => decide_eq_false fun same => apart (same.symm.trans (of_decide_eq_true named))
  -- The search does not look for the input that is gained.
  rw [input?, input?, ← find?_eraseP passes after.inputs, gains.others, find?_eraseP passes]

end Gains

/-- Changing an input that is there is gaining the changed one. -/
theorem gains_modifyInput {node : Node} {name : String} (change : Input → Input) {old : Input}
    (found : node.input? name = some old) (keeps : ∀ input, (change input).name = input.name) :
    Gains name (change old) node (node.modifyInput name change) := by
  -- The input keeps its name, so it is found and erased like the old one.
  have picks : ∀ input, decide ((change input).name = name) = decide (input.name = name) :=
    fun input => by rw [keeps]
  refine ⟨rfl, ?_, eraseP_modifyFirst picks _⟩
  rw [modifyInput, input?, find?_modifyFirst picks]
  exact congrArg (Option.map change) found

/-- Putting in an input of a new name is gaining it. -/
theorem gains_putInput {node : Node} (input : Input) {name : String} (named : input.name = name)
    (absent : node.input? name = none) : Gains name input node (node.putInput input) := by
  have unnamed : ∀ other ∈ node.inputs, ¬decide (other.name = name) = true := List.find?_eq_none.1 absent
  -- No input has the name, so none gives way.
  have kept : node.inputs.filter (·.name ≠ input.name) = node.inputs :=
    List.filter_eq_self.2 fun other inside => by simpa [named] using unnamed other inside
  refine ⟨rfl, ?_, ?_⟩
  · rw [input?, putInput, kept, List.find?_append]
    simp [List.find?_eq_none.2 unnamed, named]
  · rw [putInput, kept, List.eraseP_append_right _ unnamed, List.eraseP_of_forall_not unnamed]
    simp [named]

/-- Setting a literal is gaining it in the input of that name. -/
theorem gains_setValue (node : Node) (name : String) (value : Literal) (type : String) :
    Gains name { (node.input? name).getD { name, type } with value := some value, type } node
      (node.setValue name value type) := by
  -- An input that is there is changed, and otherwise one is put in.
  unfold setValue
  cases found : node.input? name with
  | some old => exact gains_modifyInput (fun input => { input with value := some value, type }) found fun _ => rfl
  | none => exact gains_putInput _ rfl found

/-- The inputs of a node except for the first of its file and the first of its coordinates. -/
def otherInputs (node : Node) : List Input :=
  (node.inputs.eraseP (·.name = "file")).eraseP (·.name = "texcoord")

/-- What a node reads is read for its file, for its coordinates or for another of its inputs. -/
theorem mem_sources_iff {node : Node} {source : String} :
    source ∈ node.sources ↔ (node.input? "file").bind (·.node) = some source ∨
      (node.input? "texcoord").bind (·.node) = some source ∨
      ∃ input ∈ node.otherInputs, input.node = some source := by
  rw [sources, mem_filterMap_iff_eraseP (·.name = "file"), mem_filterMap_iff_eraseP (·.name = "texcoord"),
    find?_eraseP fun input isFile => ?_, List.mem_filterMap]
  · rfl
  -- No input has both names.
  · rw [of_decide_eq_true isFile]
    rfl

end Node

end Document

open Document (Graph Node Input)

/-- A path that is routed, with the position of the graph that its node is in and the reference that its file
is. -/
structure Route where
  path : String
  position : Nat
  reference : AssetReference
  deriving DecidableEq, Repr

namespace Texture

/-- The input that a texture node reads its coordinates by: its own one, or else one for a new reader. -/
def coordinates (node : Node) : Input :=
  (node.input? "texcoord").getD
    { name := "texcoord", type := "vector2", node := some (readerName node.name) }

/-- The node with an input for its coordinates. -/
def coordinated (node : Node) : Node :=
  if (node.input? "texcoord").isSome then node else node.putInput (coordinates node)

/-- The reader that comes in for a node without coordinates. -/
def newReader (context : TextureContext) (path type : String) (node : Node) : List Node :=
  if (node.input? "texcoord").isSome then []
  else [readerNode context node.name (primvar context path type).1]

/-- What comes in for a node without coordinates has the name of its reader. -/
theorem name_of_mem_newReader {context : TextureContext} {path type : String} {node new : Node}
    (member : new ∈ newReader context path type node) : new.name = readerName node.name := by
  -- At most one node comes in, which is the reader.
  unfold newReader at member
  split at member
  · exact absurd member List.not_mem_nil
  · rw [List.mem_singleton.1 member]
    rfl

/-- The input of a node for its coordinates once these come from its remapper. -/
def throughRemapper (name : String) (input : Input) : Input :=
  { input with node := some (remapperName name), output := none, value := none }

/-- A node that is given coordinates gains the input that it reads them by. -/
theorem gains_coordinated (node : Node) :
    Node.Gains "texcoord" (coordinates node) node (coordinated node) := by
  -- A node with coordinates keeps them, and otherwise they are put in.
  unfold coordinated
  cases own : node.input? "texcoord" with
  | some input => exact .refl (by simp [coordinates, own])
  | none => exact Node.gains_putInput _ (by simp [coordinates, own]) own

/-- A node that gains a file reads its coordinates by the same input as before. -/
theorem coordinates_of_gains {input : Input} {node filed : Node} (file : Node.Gains "file" input node filed) :
    coordinates filed = coordinates node := by
  -- The file is another input than the coordinates.
  rw [coordinates, coordinates, file.input?_eq (by decide), file.name_eq]

/-- A node that gains a file needs the same reader as before. -/
theorem newReader_of_gains {context : TextureContext} {path type : String} {input : Input} {node filed : Node}
    (file : Node.Gains "file" input node filed) :
    newReader context path type filed = newReader context path type node := by
  -- Whether a reader is added depends on the coordinates and not on the file.
  rw [newReader, newReader, file.input?_eq (by decide), file.name_eq]

end Texture

namespace Route

variable (context : TextureContext) (network : Network) (route : Route)

/-- The name of the node that is routed. -/
def leaf : String :=
  NodePath.leaf route.path

/-- Whether the file of the node is native. -/
def native : Bool :=
  Texture.isNative context (Texture.resolved context route.reference)

/-- The text that the node gets for its file: the path if that is native, else the locator for the plugin. -/
def text : String :=
  let file := Texture.resolved context route.reference
  let modes := (WrapMode.ofNode network route.path).1
  if route.native context then file else Texture.pluginLocator context.plugin file modes.1 modes.2

/-- The input that the node gets for its file, with what its own one reads if it has one. -/
def fileInput (node : Node) : Input :=
  { (node.input? "file").getD { name := "file", type := "filename" } with
    value := some (.string (route.text context network)), type := "filename" }

/-- The input that the node gets for its coordinates: read as they were, or from a remapper. -/
def coordinatesInput (node : Node) : Input :=
  if route.native context then Texture.throughRemapper node.name (Texture.coordinates node)
  else Texture.coordinates node

/-- The node as it is once it is routed. -/
def change (node : Node) : Node :=
  let coordinated :=
    Texture.coordinated (node.setValue "file" (.string (route.text context network)) "filename")
  if route.native context then coordinated.modifyInput "texcoord" (Texture.throughRemapper node.name)
  else coordinated

/-- The nodes that come in with the routing of a node: a reader if it has no coordinates, and a remapper if its
file is native. -/
def added (node : Node) : List Node :=
  Texture.newReader context route.path (network.typeOf route.path) node ++
    if route.native context then
      [Texture.remapperNode context node.name (some (Texture.coordinates node))]
    else []

/-- A node that is routed gains its file and then its coordinates. -/
theorem gains_change (node : Node) :
    ∃ filed, Node.Gains "file" (route.fileInput context network node) node filed ∧
      Node.Gains "texcoord" (route.coordinatesInput context node) filed (route.change context network node) := by
  have file := node.gains_setValue "file" (.string (route.text context network)) "filename"
  refine ⟨_, file, ?_⟩
  have coordinated := Texture.gains_coordinated
    (node.setValue "file" (.string (route.text context network)) "filename")
  rw [Texture.coordinates_of_gains file] at coordinated
  unfold change coordinatesInput
  split
  -- What the coordinates were read from is taken over by the remapper.
  · exact coordinated.trans (Node.gains_modifyInput _ coordinated.given fun _ => rfl)
  · exact coordinated

variable (node : Node)

/-- Routing a node changes nothing but inputs. -/
theorem change_eq :
    route.change context network node =
      { node with inputs := (route.change context network node).inputs } := by
  -- Both changes are to the inputs.
  obtain ⟨filed, file, coordinates⟩ := route.gains_change context network node
  rw [coordinates.same, file.same]

/-- A node that is routed keeps its name. -/
theorem name_change : (route.change context network node).name = node.name := by
  -- A change sets inputs only.
  rw [change_eq]

/-- The file of a node that is routed. -/
theorem input?_file_change :
    (route.change context network node).input? "file" = some (route.fileInput context network node) := by
  -- The file is set first, and the coordinates have another name.
  obtain ⟨filed, file, coordinates⟩ := route.gains_change context network node
  exact (coordinates.input?_eq (by decide)).trans file.given

/-- The coordinates of a node that is routed. -/
theorem input?_texcoord_change :
    (route.change context network node).input? "texcoord" = some (route.coordinatesInput context node) := by
  -- The coordinates are changed last.
  obtain ⟨filed, file, coordinates⟩ := route.gains_change context network node
  exact coordinates.given

/-- The other inputs of a node that is routed stay. -/
theorem otherInputs_change : (route.change context network node).otherInputs = node.otherInputs := by
  obtain ⟨filed, file, coordinates⟩ := route.gains_change context network node
  have apart (inputs : List Input) : (inputs.eraseP (·.name = "file")).eraseP (·.name = "texcoord") =
      (inputs.eraseP (·.name = "texcoord")).eraseP (·.name = "file") := by
    refine List.eraseP_comm fun input _ => ?_
    -- No input has both names.
    by_cases isFile : input.name = "file"
    · exact .inr (by simp [isFile])
    · exact .inl (by simp [isFile])
  rw [Node.otherInputs, apart, coordinates.others, ← apart, file.others, Node.otherInputs]

variable {context network route node}

/-- What comes in is a reader if the node has no coordinates, and a remapper if its file is native. -/
theorem mem_added_iff {new : Node} :
    new ∈ route.added context network node ↔
      (node.input? "texcoord" = none ∧ new = Texture.readerNode context node.name
        (Texture.primvar context route.path (network.typeOf route.path)).1) ∨
      (route.native context = true ∧
        new = Texture.remapperNode context node.name (some (Texture.coordinates node))) := by
  -- The reader comes in where coordinates are missing, and the remapper where the texture is native.
  rw [added, List.mem_append]
  refine or_congr ?_ ?_
  · unfold Texture.newReader
    cases node.input? "texcoord" with
    | some _ => simp
    | none => simp
  · split
    · simp_all
    · simp_all

/-- What comes in has the name of the reader or of the remapper of the node. -/
theorem name_of_mem_added {new : Node} (member : new ∈ route.added context network node) :
    new.name = Texture.readerName node.name ∨ new.name = Texture.remapperName node.name := by
  -- What comes in is the reader or the remapper.
  rcases mem_added_iff.1 member with ⟨_, rfl⟩ | ⟨_, rfl⟩
  · exact .inl rfl
  · exact .inr rfl

/-- No two of the nodes that come in have one name. -/
theorem nodup_added : ((route.added context network node).map (·.name)).Nodup := by
  -- The reader and the remapper have different endings.
  have apart := Texture.readerName_ne_remapperName node.name node.name
  unfold added Texture.newReader
  split <;> split <;> simp [Texture.readerNode, Texture.remapperNode, apart]

end Route

end ShadeBake

import ShadeBake.Proofs.Document.Node
import ShadeBake.Proofs.Shader.Calls

/-! What a call passes for a node whose definition is known: one argument for each declared input, in the order of
declaration. Each is settled by its own input alone, so that neither the order of authoring nor inputs that are not
declared make a difference. -/

namespace ShadeBake

open Document (Graph Node Signature Plug Input)

namespace Document

/-- A definition declares an input when it lists a plug of the input's name. -/
def Signature.declares (signature : Signature) (input : Input) : Bool :=
  signature.inputs.any (·.name = input.name)

/-- The input of a declared name is looked for among the declared inputs only. -/
theorem Node.input?_eq_find?_declared {signature : Signature} {plug : Plug} (listed : plug ∈ signature.inputs)
    (node : Node) :
    node.input? plug.name = (node.inputs.filter signature.declares).find? (·.name = plug.name) := by
  unfold Node.input?
  rw [List.find?_filter]
  -- An input of the plug's name is declared by that plug.
  congr 1
  funext input
  by_cases named : input.name = plug.name
  · have declared : signature.declares input = true :=
      List.any_eq_true.2 ⟨plug, listed, decide_eq_true named.symm⟩
    simp [named, declared]
  · simp [named]

end Document

namespace Shader

/-- A constant expresses a literal in a value type, which is the literal's own where none is given. -/
def Expresses (type : String) (value : Literal) (constant : Constant) : Prop :=
  ∃ known, ShaderType.ofValueType? (if type = "" then value.valueType else type) = some known ∧
    Constant.ofLiteral? known value = some constant

/-- Nothing is authored when there is no input, or one that neither is connected nor holds a literal. -/
def Unauthored (authored : Option Input) : Prop :=
  ∀ input ∈ authored, input.node = none ∧ input.value = none

/-- What stands for a declared input before any turning, by the input that is authored under its name: a
connection comes first, then the authored literal, the declared default, the surface coordinates for the
coordinates of an image, and last the zero of the type. -/
inductive Supplies (graph : Graph) (image : Bool) (authored : Option Input) (plug : Plug) : Argument → Prop
  | connection {input : Input} {source : String} {feeding : Node} {output : Plug}
      (there : authored = some input) (reads : input.node = some source)
      (found : graph.node? source = some feeding) (listed : output ∈ feeding.outputPlugs)
      (named : output.name = input.output.getD feeding.defaultOutput.name) :
      Supplies graph image authored plug (.read (feeding.outputVariable output.name))
  | authored {input : Input} {value : Literal} {constant : Constant}
      (there : authored = some input) (unconnected : input.node = none) (holds : input.value = some value)
      (expresses : Expresses (typeOf authored plug.type) value constant) :
      Supplies graph image authored plug (.constant constant)
  | declared {value : Literal} {constant : Constant}
      (unauthored : Unauthored authored) (holds : plug.default = some value)
      (expresses : Expresses (typeOf authored plug.type) value constant) :
      Supplies graph image authored plug (.constant constant)
  | coordinates (unauthored : Unauthored authored) (undefaulted : plug.default = none)
      (named : plug.name = coordinatesName) (looksUp : image = true) :
      Supplies graph image authored plug .coordinates
  | zero {type : ShaderType} (unauthored : Unauthored authored) (undefaulted : plug.default = none)
      (other : ¬(plug.name = coordinatesName ∧ image = true))
      (known : ShaderType.ofValueType? (typeOf authored plug.type) = some type) :
      Supplies graph image authored plug (.zero type)

/-- An argument serves a declared input of a node when it is what stands for the input, turned around if that is
called for. -/
def ServesPlug (options : EmitOptions) (graph : Graph) (node : Node) (plug : Plug) (passed : Argument) : Prop :=
  ∃ plain, Supplies graph node.isImage (node.input? plug.name) plug plain ∧
    passed = oriented options node plug.name plain

variable {options : EmitOptions} {graph : Graph} {node other : Node} {plug : Plug} {passed : Argument}

/-- A literal is passed as a constant that expresses it. -/
theorem literal_eq_ok_iff {name type : String} {value : Literal} :
    literal node name type value = .ok passed ↔
      ∃ constant, Expresses type value constant ∧ passed = .constant constant := by
  unfold literal inputType Expresses
  cases known : ShaderType.ofValueType? (if type = "" then value.valueType else type) with
  | none => simp [bind, Except.bind]
  | some shaderType =>
    -- The type is known, and the literal has a constant of it or not.
    cases expressed : Constant.ofLiteral? shaderType value with
    | none => simp [expressed, bind, Except.bind, throw, throwThe, MonadExceptOf.throw]
    | some constant => simp [expressed, bind, Except.bind, pure, Except.pure, eq_comm]

/-- The zero of a type is passed where shaders have the type. -/
theorem zero_eq_ok_iff {name type : String} :
    (inputType node name type).map Argument.zero = .ok passed ↔
      ∃ known, ShaderType.ofValueType? type = some known ∧ passed = .zero known := by
  -- A zero is passed for any type that the language knows.
  unfold inputType
  cases ShaderType.ofValueType? type with
  | none => simp [Except.map]
  | some known => simp [Except.map, eq_comm]

/-- A connected input passes the variable of an output that its source has, the default one if it names none. -/
theorem connected_eq_ok_iff {input : Input} {source : String} :
    connected graph node input source = .ok passed ↔
      ∃ feeding, graph.node? source = some feeding ∧ ∃ output ∈ feeding.outputPlugs,
        output.name = input.output.getD feeding.defaultOutput.name ∧
        passed = .read (feeding.outputVariable output.name) := by
  unfold connected
  cases found : graph.node? source with
  | none => simp
  | some feeding =>
    simp only [Option.some.injEq, exists_eq_left']
    cases named : input.output with
    -- The default output is one of the source's.
    | none =>
      simp only [Except.ok.injEq, Option.getD_none]
      constructor
      · intro reads
        exact ⟨feeding.defaultOutput, feeding.defaultOutput_mem, rfl, reads.symm⟩
      · rintro ⟨output, _, same, reads⟩
        rw [reads, same]
    -- An output that is named must be listed.
    | some output =>
      simp only [Option.getD_some]
      split
      · rename_i listed
        obtain ⟨plug, inside, same⟩ := List.any_eq_true.1 listed
        have same : plug.name = output := of_decide_eq_true same
        simp only [Except.ok.injEq]
        constructor
        · intro reads
          exact ⟨plug, inside, same, by rw [same, reads]⟩
        · rintro ⟨other, _, named, reads⟩
          rw [reads, named]
      · rename_i unlisted
        simp only [reduceCtorEq, false_iff]
        rintro ⟨other, inside, same, _⟩
        exact unlisted (List.any_eq_true.2 ⟨other, inside, decide_eq_true same⟩)

/-- A connected input is read. -/
theorem plainArgument_of_connected {input : Input} {source : String} (there : node.input? plug.name = some input)
    (reads : input.node = some source) :
    plainArgument graph node plug.name plug.type plug.default = connected graph node input source := by
  -- A connection comes before any value.
  simp only [plainArgument, there, Option.bind_some, reads, Option.map_some]

/-- A literal that is authored is passed where nothing is connected. -/
theorem plainArgument_of_authored {input : Input} {value : Literal} (there : node.input? plug.name = some input)
    (unconnected : input.node = none) (holds : input.value = some value) :
    plainArgument graph node plug.name plug.type plug.default =
      literal node plug.name (typeOf (node.input? plug.name) plug.type) value := by
  -- Without a connection the authored value comes before the declared default.
  simp only [plainArgument, there, Option.bind_some, unconnected, Option.map_none, holds, Option.some_or]

/-- Where nothing is authored, the declared default is passed, or else coordinates or a zero. -/
theorem plainArgument_of_unauthored (unauthored : Unauthored (node.input? plug.name)) :
    plainArgument graph node plug.name plug.type plug.default =
      match plug.default with
      | some value => literal node plug.name (typeOf (node.input? plug.name) plug.type) value
      | none =>
        if plug.name = coordinatesName && node.isImage then .ok .coordinates
        else (inputType node plug.name (typeOf (node.input? plug.name) plug.type)).map .zero := by
  unfold plainArgument
  cases there : node.input? plug.name with
  | none => rfl
  | some input =>
    -- The input that is there says nothing but its type.
    obtain ⟨unconnected, empty⟩ := unauthored input there
    cases input
    dsimp only at unconnected empty
    subst unconnected empty
    rfl

/-- What is computed for a declared input is what stands for it. -/
theorem plainArgument_eq_ok_iff :
    plainArgument graph node plug.name plug.type plug.default = .ok passed ↔
      Supplies graph node.isImage (node.input? plug.name) plug passed := by
  -- The cases are those of the computation: an input that speaks for itself, or one that does not.
  constructor
  · intro computes
    by_cases unauthored : Unauthored (node.input? plug.name)
    · rw [plainArgument_of_unauthored unauthored] at computes
      split at computes
      · rename_i value holds
        obtain ⟨constant, expresses, rfl⟩ := literal_eq_ok_iff.1 computes
        exact .declared unauthored holds expresses
      · rename_i undefaulted
        split at computes
        · rename_i coordinates
          rw [Bool.and_eq_true, decide_eq_true_eq] at coordinates
          cases computes
          exact .coordinates unauthored undefaulted coordinates.1 coordinates.2
        · rename_i other
          rw [Bool.and_eq_true, decide_eq_true_eq] at other
          obtain ⟨known, isKnown, rfl⟩ := zero_eq_ok_iff.1 computes
          exact .zero unauthored undefaulted other isKnown
    · simp only [Unauthored, Classical.not_forall] at unauthored
      obtain ⟨input, there, speaks⟩ := unauthored
      have there : node.input? plug.name = some input := there
      cases reads : input.node with
      | some source =>
        rw [plainArgument_of_connected there reads] at computes
        obtain ⟨feeding, found, output, listed, named, rfl⟩ := connected_eq_ok_iff.1 computes
        exact .connection there reads found listed named
      | none =>
        cases holds : input.value with
        | none => exact absurd ⟨reads, holds⟩ speaks
        | some value =>
          rw [plainArgument_of_authored there reads holds] at computes
          obtain ⟨constant, expresses, rfl⟩ := literal_eq_ok_iff.1 computes
          exact .authored there reads holds expresses
  · intro supplies
    -- Each rule says which branch is taken and what that gives.
    cases supplies with
    | connection there reads found listed named =>
      rw [plainArgument_of_connected there reads]
      exact connected_eq_ok_iff.2 ⟨_, found, _, listed, named, rfl⟩
    | authored there unconnected holds expresses =>
      rw [plainArgument_of_authored there unconnected holds]
      exact literal_eq_ok_iff.2 ⟨_, expresses, rfl⟩
    | declared unauthored holds expresses =>
      rw [plainArgument_of_unauthored unauthored, holds]
      exact literal_eq_ok_iff.2 ⟨_, expresses, rfl⟩
    | coordinates unauthored undefaulted named looksUp =>
      rw [plainArgument_of_unauthored unauthored, undefaulted]
      simp [named, looksUp]
    | zero unauthored undefaulted other known =>
      rw [plainArgument_of_unauthored unauthored, undefaulted]
      rw [← decide_eq_true_eq (p := plug.name = coordinatesName), ← Bool.and_eq_true] at other
      simp only [if_neg other]
      exact zero_eq_ok_iff.2 ⟨_, known, rfl⟩

/-- What is passed for a declared input serves it. -/
theorem argument_eq_ok_iff :
    argument options graph node plug.name plug.type plug.default = .ok passed ↔
      ServesPlug options graph node plug passed := by
  -- What is supplied is turned or not, which depends on the node and the input only.
  constructor
  · intro passes
    obtain ⟨plain, works, turned⟩ := exists_plain passes
    exact ⟨plain, plainArgument_eq_ok_iff.1 works, turned⟩
  · rintro ⟨plain, supplies, rfl⟩
    unfold argument oriented
    rw [plainArgument_eq_ok_iff.2 supplies]
    simp only [bind, Except.bind]
    split
    · rfl
    · rfl

/-- The arguments of a node whose definition is known serve the declared inputs one by one. -/
theorem arguments_eq_ok_iff {signature : Signature} (known : node.signature = some signature)
    {list : List Argument} :
    arguments options graph node = .ok list ↔
      List.Forall₂ (ServesPlug options graph node) signature.inputs list := by
  -- The plugs of the signature are served one by one.
  unfold arguments
  simp only [known]
  rw [mapM_eq_ok_iff]
  simp only [argument_eq_ok_iff]

/-- What serves a declared input of a node serves it for every node that is an image or not like this one and has
the same input authored under the name. -/
theorem ServesPlug.congr (serves : ServesPlug options graph node plug passed) (alike : other.isImage = node.isImage)
    (same : other.input? plug.name = node.input? plug.name) : ServesPlug options graph other plug passed := by
  -- Both parts look at the node through its input and whether it is an image.
  obtain ⟨plain, supplies, turned⟩ := serves
  refine ⟨plain, ?_, ?_⟩
  · rw [alike, same]
    exact supplies
  · unfold oriented at turned ⊢
    rw [alike]
    exact turned

/-- The arguments stay the same when inputs change without a change in what is found under declared names. -/
theorem arguments_withInputs {signature : Signature} (known : node.signature = some signature)
    {list : List Argument} (passes : arguments options graph node = .ok list) {inputs : List Input}
    (same : ∀ plug ∈ signature.inputs, ({ node with inputs } : Node).input? plug.name = node.input? plug.name) :
    arguments options graph { node with inputs } = .ok list := by
  have serves := (arguments_eq_ok_iff known).1 passes
  have known' : ({ node with inputs } : Node).signature = some signature := known
  refine (arguments_eq_ok_iff known').2 ?_
  -- The other inputs come in at the look-ups only.
  exact ((List.forall₂_and_left _ _).2 ⟨same, serves⟩).imp fun plug passed here => here.2.congr rfl here.1

/-- Of two lists that are related element by element, the elements at a position are related. -/
theorem exists_getElem?_of_forall₂ {α β : Type} {relation : α → β → Prop} {list : List α} {results : List β}
    (related : List.Forall₂ relation list results) {position : Nat} {a : α} (here : list[position]? = some a) :
    ∃ b, results[position]? = some b ∧ relation a b := by
  -- Related lists have the same length.
  obtain ⟨bound, rfl⟩ := List.getElem?_eq_some_iff.1 here
  have bound' : position < results.length := related.length_eq ▸ bound
  exact ⟨results[position], List.getElem?_eq_getElem bound', (List.forall₂_iff_get.1 related).2 position bound bound'⟩

/-- The arguments of a node whose definition is known are one for each declared input, in the order of declaration.
Each is settled by its plug and the input authored under that name, wherever else the plug stands and whatever else
is declared or authored. So the list stays the same when undeclared inputs come or go, and when inputs of distinct
names are authored in another order. -/
theorem arguments_positional (options : EmitOptions) (graph : Graph) (node : Node) {signature : Signature}
    (known : node.signature = some signature) {list : List Argument}
    (passes : arguments options graph node = .ok list) :
    List.Forall₂ (ServesPlug options graph node) signature.inputs list ∧
    (∀ (other : Node) (signature' : Signature) (list' : List Argument), other.signature = some signature' →
      arguments options graph other = .ok list' → other.isImage = node.isImage →
      ∀ (position position' : Nat) (plug : Plug), signature.inputs[position]? = some plug →
        signature'.inputs[position']? = some plug → other.input? plug.name = node.input? plug.name →
        list'[position']? = list[position]?) ∧
    (∀ inputs, inputs.filter signature.declares = node.inputs.filter signature.declares →
      arguments options graph { node with inputs } = .ok list) ∧
    (node.Distinct → ∀ inputs,
      (inputs.filter signature.declares).Perm (node.inputs.filter signature.declares) →
      arguments options graph { node with inputs } = .ok list) := by
  have serves := (arguments_eq_ok_iff known).1 passes
  refine ⟨serves, ?_, ?_, ?_⟩
  · intro other signature' list' known' passes' alike position position' plug here here' same
    obtain ⟨passed, there, serving⟩ := exists_getElem?_of_forall₂ serves here
    obtain ⟨passed', there', serving'⟩ :=
      exists_getElem?_of_forall₂ ((arguments_eq_ok_iff known').1 passes') here'
    -- Both serve the plug for the other node, which passes one argument for it.
    have one := argument_eq_ok_iff.2 (serving.congr alike same)
    have one' := argument_eq_ok_iff.2 serving'
    rw [there, there', Except.ok.inj (one'.symm.trans one)]
  · intro inputs same
    apply arguments_withInputs known passes
    intro plug listed
    rw [Node.input?_eq_find?_declared listed, Node.input?_eq_find?_declared listed node, same]
  · intro distinct inputs reordered
    apply arguments_withInputs known passes
    intro plug listed
    -- Only declared inputs are looked at, and their names stay distinct.
    have distinct' : ((node.inputs.filter signature.declares).map (·.name)).Nodup :=
      distinct.sublist (List.filter_sublist.map _)
    rw [Node.input?_eq_find?_declared listed, Node.input?_eq_find?_declared listed node]
    exact (find?_perm_of_nodup distinct' reordered.symm plug.name).symm

end Shader

namespace Shader.Tinted

/-- What defines images that have a colour of their own outside the picture. -/
def signature : Signature where
  inputs := [⟨"file", "filename", none⟩, ⟨"layer", "string", some (.string "")⟩, ⟨"default", "color3", none⟩,
    ⟨"texcoord", "vector2", none⟩, ⟨"frame", "integer", none⟩]
  outputs := [⟨"out", "color3", none⟩]

/-- An image with a file, a connected colour and a note that is not declared. -/
def image : Node where
  name := "img"
  category := "image"
  type := "color3"
  inputs := [{ name := "default", type := "color3", node := some "tint" },
    { name := "note", type := "string", value := some (.string "draft") },
    { name := "file", type := "filename", value := some (.string "a.png") }]
  signature := some signature

/-- The graph of the image and the node that its colour is read from. -/
def graph : Graph where
  name := "NG"
  nodes := [{ name := "tint", category := "constant", type := "color3" }, image]

/-- The inputs in another order, with another one that is not declared. -/
def reordered : List Input :=
  [{ name := "file", type := "filename", value := some (.string "a.png") },
    { name := "mood", type := "string", node := some "gone" },
    { name := "default", type := "color3", node := some "tint" }]

/-- What is passed for the image: its file, the default layer, the colour that is read, coordinates that are turned
around, and a zero. -/
def passed : List Argument :=
  [.constant (.string "a.png"), .constant (.string ""), .read ⟨"tint", "out"⟩, .flipped .coordinates, .zero .int]

/-- The same is passed for the image in either order, with the one note or the other. -/
theorem image_positional :
    image.signature = some signature ∧ arguments { flipImages := true } graph image = .ok passed ∧
    image.Distinct ∧ List.Forall₂ (ServesPlug { flipImages := true } graph image) signature.inputs passed ∧
    (reordered.filter signature.declares).Perm (image.inputs.filter signature.declares) ∧
    arguments { flipImages := true } graph { image with inputs := reordered } = .ok passed := by
  -- The arguments are computed, and the general statement then says what they are.
  have passes : arguments { flipImages := true } graph image = .ok passed := by cbv
  have distinct : image.Distinct := by
    unfold Node.Distinct
    decide
  have another : (reordered.filter signature.declares).Perm (image.inputs.filter signature.declares) := by decide
  obtain ⟨serves, _, _, stays⟩ := arguments_positional { flipImages := true } graph image rfl passes
  exact ⟨rfl, passes, distinct, serves, another, stays distinct reordered another⟩

end Shader.Tinted

end ShadeBake

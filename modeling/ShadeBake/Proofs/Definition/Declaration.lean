import ShadeBake.Definition.Basic
import ShadeBake.Proofs.Definition.Markup
import ShadeBake.Proofs.Success

/-! Definition files are read as what they declare: from every text that writes node definitions exactly these
are read, in their order. -/

namespace ShadeBake

/-- An input as a definition declares it, with its default if there is one. -/
structure Declaration.Input where
  name : String
  type : String
  value : Option String

/-- A node definition as a file declares it, no two inputs under one name; it need not say its type. -/
structure Declaration where
  name : String
  category : String
  type : Option String
  inputs : List Declaration.Input
  outputs : List (String × String)
  distinct : (inputs.map (·.name)).Nodup

namespace Declaration

/-- The attributes that declare an input. -/
def Input.attributes (input : Input) : List (String × String) :=
  [("name", input.name), ("type", input.type)] ++ (input.value.map ("value", ·)).toList

/-- The attributes that declare an output. -/
def outputAttributes (output : String × String) : List (String × String) :=
  [("name", output.1), ("type", output.2)]

/-- The attributes that declare a definition. -/
def attributes (declaration : Declaration) : List (String × String) :=
  [("name", declaration.name), ("node", declaration.category)] ++
    (declaration.type.map ("type", ·)).toList

/-- The type of a declared definition: its own, or else that of its first output, or none at all. -/
def valueType (declaration : Declaration) : String :=
  declaration.type.getD ((declaration.outputs.head?.map (·.2)).getD "")

/-- The definition that is declared. One with a type and no outputs has a single output of its type. -/
def definition (declaration : Declaration) : Definition where
  name := declaration.name
  category := declaration.category
  type := declaration.valueType
  inputs := declaration.inputs.map fun input => (input.name, input.type)
  outputs :=
    if declaration.outputs = [] && declaration.valueType ≠ "" then [("out", declaration.valueType)]
    else declaration.outputs
  inputValues := Dict.ofList (declaration.inputs.filterMap fun input => input.value.map (input.name, ·))

end Declaration

/-- What is picked from two lists is the same when it is the same for each element. -/
theorem filterMap_of_forall₂ {α β γ : Type} {pick : α → Option γ} {choose : β → Option γ} {list : List α}
    {others : List β} (related : List.Forall₂ (fun a b => choose b = pick a) list others) :
    others.filterMap choose = list.filterMap pick := by
  -- Related elements are picked alike, or both left out.
  induction related with
  | nil => rfl
  | cons here later ih => rw [List.filterMap_cons, List.filterMap_cons, here, ih]

namespace Definition

/-- The attributes with a meaning in a definition file. -/
def knownAttributes : List String := ["name", "node", "type", "value"]

/-- Attributes declare others when they are these and further ones without a meaning, in any order. -/
def Declares (attributes own : List (String × String)) : Prop :=
  ∃ further, (∀ entry ∈ further, entry.1 ∉ knownAttributes) ∧ attributes.Perm (own ++ further)

/-- A text writes a child when it is a closed tag with its attributes, up to the next tag. -/
inductive WritesChild (element : List Char) (own : List (String × String)) : List Char → Prop
  | mk (attributes : List (String × String)) {text : List Char} (gap between : List Char)
      (declares : Declares attributes own) (writes : Markup.WritesAttributes attributes text)
      (blank : Markup.Blanks gap) (plain : '<' ∉ between) :
      WritesChild element own ('<' :: element ++ (text ++ (gap ++ '/' :: '>' :: between)))

/-- A text writes inputs and outputs when it writes one child after the other, each kind in its order. -/
inductive WritesChildren : List Declaration.Input → List (String × String) → List Char → Prop
  | nil : WritesChildren [] [] []
  | input {input : Declaration.Input} {inputs : List Declaration.Input} {outputs : List (String × String)}
      {text later : List Char} (child : WritesChild "input".toList input.attributes text)
      (rest : WritesChildren inputs outputs later) :
      WritesChildren (input :: inputs) outputs (text ++ later)
  | output {output : String × String} {inputs : List Declaration.Input} {outputs : List (String × String)}
      {text later : List Char}
      (child : WritesChild "output".toList (Declaration.outputAttributes output) text)
      (rest : WritesChildren inputs outputs later) :
      WritesChildren inputs (output :: outputs) (text ++ later)

/-- A text writes a definition when it is a tag with its attributes that closes itself, for one without
children, or such a tag and the closing tag, which has no blanks in it, around its children. -/
inductive WritesDefinition (declaration : Declaration) : List Char → Prop
  | empty (attributes : List (String × String)) {text : List Char} (gap : List Char)
      (childless : declaration.inputs = [] ∧ declaration.outputs = [])
      (declares : Declares attributes declaration.attributes)
      (writes : Markup.WritesAttributes attributes text) (blank : Markup.Blanks gap) :
      WritesDefinition declaration (opening ++ (text ++ (gap ++ ['/', '>'])))
  | around (attributes : List (String × String)) {text : List Char} (gap between : List Char)
      {children : List Char}
      (declares : Declares attributes declaration.attributes)
      (writes : Markup.WritesAttributes attributes text) (blank : Markup.Blanks gap) (plain : '<' ∉ between)
      (writesChildren : WritesChildren declaration.inputs declaration.outputs children) :
      WritesDefinition declaration
        (opening ++ (text ++ (gap ++ '>' :: (between ++ children ++ closing))))

/-- A text writes definitions when it writes one after the other, with any text around them in which no
definition opens. -/
inductive Writes : List Declaration → List Char → Prop
  | nil {between : List Char} (plain : ¬opening <:+: between) : Writes [] between
  | cons {declaration : Declaration} {declarations : List Declaration} {between text later : List Char}
      (plain : ¬opening <:+: between) (first : WritesDefinition declaration text)
      (rest : Writes declarations later) : Writes (declaration :: declarations) (between ++ (text ++ later))

/-! ### What attributes declare -/

/-- Attributes hold what they declare under each name with a meaning. -/
theorem Declares.get?_ofList {attributes own : List (String × String)} (declares : Declares attributes own)
    (distinct : (own.map (·.1)).Nodup) (name : String) (known : name ∈ knownAttributes) :
    (Dict.ofList attributes).get? name = Dict.lookup name own := by
  obtain ⟨further, unknown, order⟩ := declares
  -- No further attribute has such a name, so both lists give it the same values.
  have same : ∀ value, (name, value) ∈ attributes.reverse ↔ (name, value) ∈ own := by
    intro value
    rw [List.mem_reverse, order.mem_iff, List.mem_append, or_iff_left_iff_imp]
    exact fun inside => absurd known (unknown (name, value) inside)
  rw [Dict.get?_ofList]
  cases held : Dict.lookup name attributes.reverse with
  | some value => exact (Dict.lookup_of_nodup distinct ((same value).1 (Dict.mem_of_lookup held))).symm
  | none =>
    -- A value on one side only would be on the other as well.
    cases listed : Dict.lookup name own with
    | none => rfl
    | some value =>
      have member := (same value).2 (Dict.mem_of_lookup listed)
      have some := Dict.isSome_lookup_iff.2 (List.mem_map_of_mem (f := (·.1)) member)
      simp [held] at some

/-- The attributes of an input have distinct names. -/
theorem nodup_input (input : Declaration.Input) : (input.attributes.map (·.1)).Nodup := by
  -- There are two or three attributes, with different names.
  obtain ⟨name, type, value⟩ := input
  cases value with
  | none => simp [Declaration.Input.attributes]
  | some text => simp [Declaration.Input.attributes]

/-- A tag that declares an input gives its name and type, and its default if there is one. -/
theorem plugOf?_input {attributes : List (String × String)} {input : Declaration.Input}
    (declares : Declares attributes input.attributes) :
    plugOf? (Dict.ofList attributes) = some (input.name, input.type) ∧
      valueOf? (Dict.ofList attributes) = input.value.map (input.name, ·) := by
  -- Each attribute is looked up by its name, and the value is there or not on both sides.
  have distinct := nodup_input input
  simp only [plugOf?, valueOf?, declares.get?_ofList distinct "name" (by decide),
    declares.get?_ofList distinct "type" (by decide),
    declares.get?_ofList distinct "value" (by decide)]
  obtain ⟨name, type, value⟩ := input
  cases value with
  | none => exact ⟨rfl, rfl⟩
  | some text => exact ⟨rfl, rfl⟩

/-- A tag that declares an output gives its name and type. -/
theorem plugOf?_output {attributes : List (String × String)} {output : String × String}
    (declares : Declares attributes (Declaration.outputAttributes output)) :
    plugOf? (Dict.ofList attributes) = some output := by
  -- Each attribute is looked up by its name.
  have distinct : ((Declaration.outputAttributes output).map (·.1)).Nodup := by
    simp [Declaration.outputAttributes]
  simp only [plugOf?, declares.get?_ofList distinct "name" (by decide),
    declares.get?_ofList distinct "type" (by decide)]
  rfl

/-! ### Children -/

/-- The only bracket of a child that opens a tag is its first. -/
theorem WritesChild.exists_tail {element text : List Char} {own : List (String × String)}
    (child : WritesChild element own text) (plain : '<' ∉ element) :
    ∃ tail, text = '<' :: (element ++ tail) ∧ '<' ∉ element ++ tail := by
  -- Behind its bracket a child is made of a name, attributes, blanks and text, none with a bracket.
  cases child with
  | @mk attributes inner gap between declares writes blank apart =>
    refine ⟨inner ++ (gap ++ '/' :: '>' :: between), rfl, ?_⟩
    have visible : '<' ∉ gap := blank.not_mem (by decide)
    simp [plain, writes.not_mem, visible, apart]

/-- A child gives the attributes of its tag, before those of what follows. -/
theorem WritesChild.tags {element text : List Char} {own : List (String × String)}
    (child : WritesChild element own text) (later : List Char) :
    ∃ attributes, Declares attributes own ∧
      Markup.tags element (text ++ later) = Dict.ofList attributes :: Markup.tags element later := by
  -- The tag of the child is read first, and the text behind it holds no other.
  cases child with
  | @mk attributes inner gap between declares writes blank apart =>
    refine ⟨attributes, declares, ?_⟩
    have closed := Markup.tags_closed element writes blank (between ++ later)
    rw [Markup.tags_append (Text.passes_of_not_mem apart element later)] at closed
    simpa using closed

/-- The names of the elements that are children. -/
def childElements : List (List Char) := ["input".toList, "output".toList]

/-- A search for what no child begins with passes over a child. -/
theorem WritesChild.passes {element text piece : List Char} {own : List (String × String)}
    (child : WritesChild element own text) (kind : element ∈ childElements)
    (away : ∀ tail, Text.after? piece (element ++ tail) = none) (later : List Char) :
    Text.Passes ('<' :: piece) text later := by
  -- There is only one place where another tag could begin.
  have plain : ∀ element ∈ childElements, '<' ∉ element := by decide
  obtain ⟨tail, rfl, single⟩ := child.exists_tail (plain element kind)
  refine Text.passes_of_away ?_ single
  rw [List.append_assoc]
  exact away (tail ++ later)

namespace WritesChildren

variable {inputs : List Declaration.Input} {outputs : List (String × String)} {text piece : List Char}

/-- A search for what no child begins with passes over all children. -/
theorem passes (children : WritesChildren inputs outputs text)
    (away : ∀ element ∈ childElements, ∀ tail, Text.after? piece (element ++ tail) = none)
    (later : List Char) : Text.Passes ('<' :: piece) text later := by
  -- The children are passed one after the other.
  induction children with
  | nil => exact .nil
  | input child rest ih => exact .append (child.passes (by decide) (away _ (by decide)) _) ih
  | output child rest ih => exact .append (child.passes (by decide) (away _ (by decide)) _) ih

/-- The tags of inputs declare the inputs, in their order. -/
theorem inputs_tags (children : WritesChildren inputs outputs text) :
    List.Forall₂ (fun input tag => plugOf? tag = some (input.name, input.type) ∧
      valueOf? tag = input.value.map (input.name, ·)) inputs (Markup.tags "input".toList text) := by
  induction children with
  | nil =>
    rw [Markup.tags_of_none (Text.splitAt?_of_not_mem List.not_mem_nil _)]
    exact .nil
  | @input input inputs outputs text later child rest ih =>
    obtain ⟨attributes, declares, tags⟩ := child.tags later
    rw [tags]
    exact .cons (plugOf?_input declares) ih
  -- An output has another name, and is passed over.
  | @output output inputs outputs text later child rest ih =>
    rw [Markup.tags_append (child.passes (by decide) (fun _ => rfl) later)]
    exact ih

/-- The tags of outputs declare the outputs, in their order. -/
theorem outputs_tags (children : WritesChildren inputs outputs text) :
    List.Forall₂ (fun output tag => plugOf? tag = some output) outputs
      (Markup.tags "output".toList text) := by
  -- An input has another name and is passed, and an output gives its own tag.
  induction children with
  | nil =>
    rw [Markup.tags_of_none (Text.splitAt?_of_not_mem List.not_mem_nil _)]
    exact .nil
  | @input input inputs outputs text later child rest ih =>
    rw [Markup.tags_append (child.passes (by decide) (fun _ => rfl) later)]
    exact ih
  | @output output inputs outputs text later child rest ih =>
    obtain ⟨attributes, declares, tags⟩ := child.tags later
    rw [tags]
    exact .cons (plugOf?_output declares) ih

end WritesChildren

/-! ### Definitions -/

/-- The beginning of a definition's tag, character by character. -/
theorem opening_eq : opening = ['<', 'n', 'o', 'd', 'e', 'd', 'e', 'f'] := rfl

/-- Where no definition opens there are none. -/
theorem ofText_of_none {text : List Char} (free : Text.splitAt? opening text = none) : ofText text = [] := by
  -- Nothing is read where no definition opens.
  rw [ofText]
  split
  · rfl
  · rename_i before body found
    rw [free] at found
    simp at found

/-- Where a definition opens, its tag tells the definition, if it is closed, and those behind it follow. -/
theorem ofText_of_some {text before body : List Char}
    (found : Text.splitAt? opening text = some (before, body)) :
    ofText text =
      match Markup.splitTag body with
      | none => []
      | some (tag, after) => (ofParts? tag (childrenOf tag after)).toList ++ ofText after := by
  -- Both sides look for the next definition and then for the end of its tag.
  rw [ofText]
  split
  · rename_i missing
    rw [found] at missing
    simp at missing
  · rename_i front behind located
    rw [found] at located
    cases located
    split
    · rename_i missing
      simp only [missing]
    · rename_i tag after cut
      simp only [cut]

/-- What a search for definitions passes over declares none. -/
theorem ofText_append {front rest : List Char} (passes : Text.Passes opening front rest) :
    ofText (front ++ rest) = ofText rest := by
  -- What is passed opens no definition, so the next one is found behind it.
  unfold Text.Passes at passes
  cases found : Text.splitAt? opening rest with
  | none =>
    rw [found, Option.map_none] at passes
    rw [ofText_of_none found, ofText_of_none passes]
  | some parts =>
    rw [found, Option.map_some] at passes
    rw [ofText_of_some found, ofText_of_some passes]

/-- The attributes of a definition have distinct names. -/
theorem nodup_attributes (declaration : Declaration) : (declaration.attributes.map (·.1)).Nodup := by
  -- There are two or three attributes, with different names.
  unfold Declaration.attributes
  cases declaration.type with
  | none => simp
  | some type => simp

/-- A tag and its children declare the definition that they are written for. -/
theorem ofParts?_of_declares {declaration : Declaration} {tag : List Char} (children : List Char)
    {attributes : List (String × String)} (declares : Declares attributes declaration.attributes)
    (read : Markup.attributes tag = Dict.ofList attributes)
    (inputs : List.Forall₂ (fun input tag => plugOf? tag = some (input.name, input.type) ∧
      valueOf? tag = input.value.map (input.name, ·)) declaration.inputs
        (Markup.tags "input".toList children))
    (outputs : List.Forall₂ (fun output tag => plugOf? tag = some output) declaration.outputs
      (Markup.tags "output".toList children)) :
    ofParts? tag children = some declaration.definition := by
  -- Each part of the definition is read from an attribute of its tag, or from the tags of its children.
  have held : ∀ name ∈ knownAttributes,
      (Markup.attributes tag).get? name = Dict.lookup name declaration.attributes :=
    fun name known => read ▸ declares.get?_ofList (nodup_attributes declaration) name known
  have name : (Markup.attributes tag).get? "name" = some declaration.name := held "name" (by decide)
  have category : (Markup.attributes tag).get? "node" = some declaration.category := held "node" (by decide)
  have type : (Markup.attributes tag).get? "type" = declaration.type := by
    rw [held "type" (by decide)]
    unfold Declaration.attributes
    cases declaration.type with
    | none => rfl
    | some type => rfl
  -- The lists of plugs and values are read child by child.
  have plugs : (Markup.tags "input".toList children).filterMap plugOf? =
      declaration.inputs.map fun input => (input.name, input.type) := by
    rw [filterMap_of_forall₂ (inputs.imp fun input tag gives => gives.1)]
    exact congrFun List.filterMap_eq_map declaration.inputs
  have values : (Markup.tags "input".toList children).filterMap valueOf? =
      declaration.inputs.filterMap fun input => input.value.map (input.name, ·) :=
    filterMap_of_forall₂ (inputs.imp fun input tag gives => gives.2)
  have declared : (Markup.tags "output".toList children).filterMap plugOf? = declaration.outputs := by
    rw [filterMap_of_forall₂ outputs, List.filterMap_some]
  simp only [ofParts?, name, category, type, plugs, values, declared, Option.bind_eq_bind, Option.bind_some,
    Option.pure_def, Declaration.definition, Declaration.valueType]
  rfl

/-- A tag that closes itself has no children. -/
theorem childrenOf_empty {text gap : List Char} (after : List Char) :
    childrenOf (text ++ (gap ++ ['/'])) after = [] := by
  -- The tag ends in a slash, so that there are no children.
  have visible : Text.isBlank '/' = false := by decide
  have none : Markup.Blanks [] := fun c inside => absurd inside List.not_mem_nil
  have kept := Markup.trimEnd_append (text ++ gap) visible none
  rw [List.append_assoc] at kept
  rw [childrenOf, kept, if_pos (by simp)]

/-- The children of a tag that does not close itself are all up to the closing tag. -/
theorem childrenOf_around {attributes : List (String × String)} {text gap children : List Char}
    (writes : Markup.WritesAttributes attributes text) (nonempty : attributes ≠ [])
    (blank : Markup.Blanks gap)
    {later : List Char} (passes : Text.Passes closing children (closing ++ later)) :
    childrenOf (text ++ gap) (children ++ (closing ++ later)) = children := by
  -- The tag ends in a quote and perhaps blanks, so that its children go on to the closing tag.
  obtain ⟨front, quote, rfl, quoted⟩ := writes.exists_quote nonempty
  have visible : Text.isBlank quote = false := by
    rcases quoted with rfl | rfl
    · decide
    · decide
  have kept := Markup.trimEnd_append front visible blank
  -- The last character that is no blank is the quote, so the tag does not close itself.
  have other : (front ++ [quote]).getLast? ≠ some '/' := by
    rw [List.getLast?_concat]
    rcases quoted with rfl | rfl
    · decide
    · decide
  have open' : (Text.trimEnd (front ++ [quote] ++ gap)).getLast? ≠ some '/' := by
    rw [List.append_assoc, List.singleton_append, kept]
    exact other
  rw [childrenOf, if_neg open', passes.found]

/-- A search for either tag of a definition passes over all that is between them. -/
theorem passes_between {inputs : List Declaration.Input} {outputs : List (String × String)}
    {between children : List Char} (plain : '<' ∉ between) (writes : WritesChildren inputs outputs children)
    (later : List Char) :
    Text.Passes opening (between ++ children) later ∧ Text.Passes closing (between ++ children) later := by
  -- A child's name begins with neither tag.
  have away : ∀ element ∈ childElements, ∀ tail, Text.after? opening.tail (element ++ tail) = none ∧
      Text.after? closing.tail (element ++ tail) = none := by
    simp only [childElements, List.forall_mem_cons]
    exact ⟨fun tail => ⟨rfl, rfl⟩, fun tail => ⟨rfl, rfl⟩, fun element none => absurd none List.not_mem_nil⟩
  constructor
  · exact .append (Text.passes_of_not_mem plain _ _)
      (writes.passes (fun element kind tail => (away element kind tail).1) later)
  · exact .append (Text.passes_of_not_mem plain _ _)
      (writes.passes (fun element kind tail => (away element kind tail).2) later)

/-- Nothing between the tags of a definition nor its closing tag declares another one. -/
theorem ofText_children {inputs : List Declaration.Input} {outputs : List (String × String)}
    {between children : List Char} (plain : '<' ∉ between) (writes : WritesChildren inputs outputs children)
    (later : List Char) : ofText (between ++ children ++ (closing ++ later)) = ofText later := by
  rw [ofText_append (passes_between plain writes (closing ++ later)).1]
  -- The closing tag begins with the same bracket, but goes on with a slash.
  have away : Text.after? opening.tail (closing.tail ++ later) = none := rfl
  exact ofText_append (Text.passes_of_away away (by decide))

/-- A definition is read first, and then those that are written behind it. -/
theorem ofText_of_writes_cons {declaration : Declaration} {between text : List Char}
    (plain : ¬opening <:+: between) (writes : WritesDefinition declaration text) (later : List Char) :
    ofText (between ++ (text ++ later)) = declaration.definition :: ofText later := by
  have free := Text.splitAt?_eq_none_iff.2 plain
  -- The tag of the definition is found wherever it goes on from there.
  have found : ∀ body, Text.splitAt? opening (between ++ (opening ++ body)) = some (between, body) := by
    rw [opening_eq] at free ⊢
    exact Text.splitAt?_found (by decide) free
  cases writes with
  | @empty attributes inner gap childless declares writes blank =>
    have unequal : '=' ∉ gap ++ ['/'] := by
      rw [List.mem_append, not_or]
      exact ⟨blank.not_mem (by decide), by decide⟩
    have cut := writes.splitTag_closed (Markup.plain_of_blanks blank) later
    -- Without children there is no tag to read from.
    have made := ofParts?_of_declares [] declares (writes.attributes_eq unequal)
      (by rw [childless.1, Markup.tags_of_none rfl]; exact .nil)
      (by rw [childless.2, Markup.tags_of_none rfl]; exact .nil)
    have read := ofText_of_some (found (inner ++ (gap ++ ['/'] ++ '>' :: later)))
    simp only [cut, childrenOf_empty, made] at read
    simpa using read
  | @around attributes inner gap outer children declares writes blank apart writesChildren =>
    have named : attributes ≠ [] := by
      rintro rfl
      obtain ⟨further, _, order⟩ := declares
      simp [Declaration.attributes] at order
    have bracket : ∀ c ∈ gap, c ∉ ['>', '"', '\''] := fun c inside =>
      Markup.plain_of_blanks blank c (List.mem_append_left _ inside)
    have cut := writes.splitTag_closed bracket (outer ++ children ++ (closing ++ later))
    have between := childrenOf_around writes named blank
      (passes_between apart writesChildren (closing ++ later)).2
    have same : ∀ name, Markup.tags name (outer ++ children) = Markup.tags name children :=
      fun name => Markup.tags_append (Text.passes_of_not_mem apart name children)
    have made := ofParts?_of_declares (outer ++ children) declares
      (writes.attributes_eq (blank.not_mem (by decide)))
      (by rw [same]; exact writesChildren.inputs_tags) (by rw [same]; exact writesChildren.outputs_tags)
    have read := ofText_of_some (found (inner ++ (gap ++ '>' :: (outer ++ children ++ (closing ++ later)))))
    simp only [cut, between, made, ofText_children apart writesChildren] at read
    simpa using read

/-- The default of an input is the one that is declared for it. -/
theorem get?_inputValues (declaration : Declaration) {input : Declaration.Input}
    (member : input ∈ declaration.inputs) :
    declaration.definition.inputValues.get? input.name = input.value := by
  -- Names of inputs are distinct, so a default is that of the one input with its name.
  obtain ⟨name, category, type, inputs, outputs, distinct⟩ := declaration
  have named : ((inputs.map fun input => (input.name, input.value)).map (·.1)).Nodup := by
    simpa [Function.comp_def] using distinct
  have given : ∀ {other : Declaration.Input}, other ∈ inputs →
      Dict.lookup other.name (inputs.map fun input => (input.name, input.value)) = some other.value :=
    fun inside => Dict.lookup_of_nodup named (List.mem_map.2 ⟨_, inside, rfl⟩)
  simp only [Declaration.definition]
  cases value : input.value with
  | some text =>
    refine Dict.get?_ofList_of_mem ?_ (List.mem_filterMap.2 ⟨input, member, by rw [value, Option.map_some]⟩)
    simp only [List.Nodup, List.pairwise_map] at distinct ⊢
    refine distinct.filterMap _ fun a b apart entry one other two => ?_
    simp only [Option.map_eq_some_iff] at one two
    obtain ⟨_, _, rfl⟩ := one
    obtain ⟨_, _, rfl⟩ := two
    exact apart
  | none =>
    cases held : (Dict.ofList (inputs.filterMap fun input => input.value.map (input.name, ·))).get?
        input.name with
    | none => rfl
    -- A default under its name would be that of another input with the name.
    | some text =>
      obtain ⟨other, inside, gives⟩ := List.mem_filterMap.1 (Dict.mem_of_get?_ofList held)
      rw [Option.map_eq_some_iff] at gives
      obtain ⟨_, defaulted, same⟩ := gives
      simp only [Prod.mk.injEq] at same
      have equal := given inside
      rw [same.1, given member, value, defaulted] at equal
      simp at equal

/-- From a text that writes definitions exactly these are read, in their order, and each of them has the
defaults of its inputs. -/
theorem ofText_of_writes {declarations : List Declaration} {text : List Char}
    (writes : Writes declarations text) :
    ofText text = declarations.map Declaration.definition ∧
      ∀ declaration ∈ declarations, ∀ input ∈ declaration.inputs,
        declaration.definition.inputValues.get? input.name = input.value := by
  -- Each definition is read where it is written, and the text around them gives none.
  refine ⟨?_, fun declaration _ input member => get?_inputValues declaration member⟩
  induction writes with
  | nil plain => exact ofText_of_none (Text.splitAt?_eq_none_iff.2 plain)
  | cons plain first rest ih => rw [ofText_of_writes_cons plain first, ih, List.map_cons]

namespace Written

/-- A definition without a type of its own, and an empty one. -/
def declarations : List Declaration := [
  { name := "ND_mix", category := "mix", type := none
    inputs := [⟨"fg", "string", some "<\"&amp;"⟩, ⟨"bg", "float", none⟩]
    outputs := [("result", "color3")]
    distinct := by decide },
  { name := "ND_add", category := "add", type := some "float", inputs := [], outputs := []
    distinct := by decide }]

/-- The children of the first definition, its output between the inputs. -/
def children : List Char :=
  "<input type = \"string\" value='&lt;\"&amp;amp;' name='fg' />>\n".toList ++
    ("<output name=\"result\" type=\"color3\"/>\n".toList ++
      ("<input name=\"bg\" type=\"float\"/>\n".toList ++ []))

/-- The first definition, with a further attribute that has brackets and a slash in it. -/
def mix : List Char :=
  "<nodedef node='mix' name=\"ND_mix\" doc=\"a > 'b' / c\">\n".toList ++ (children ++ "</nodedef>".toList)

/-- The second definition, which closes itself. -/
def add : List Char :=
  "<nodedef name=\"ND_add\" node=\"add\" type=\"float\"/>".toList

/-- The file that declares both. -/
def text : List Char :=
  "<materialx>\n".toList ++ (mix ++ ("\n".toList ++ (add ++ "\n</materialx>".toList)))

/-- The children are written one after the other. -/
theorem writesChildren : WritesChildren
    [⟨"fg", "string", some "<\"&amp;"⟩, ⟨"bg", "float", none⟩] [("result", "color3")] children := by
  -- The children are written one by one, each in its own style, and the text is then compared.
  refine .input ?first (.output ?result (.input ?second .nil))
  case first =>
    -- The default is written with escapes, but for the quote, which needs none between the others.
    have spells : Entity.Spells '\'' "<\"&amp;".toList "&lt;\"&amp;amp;".toList :=
      .entity (by decide : ("&lt;".toList, '<') ∈ Entity.all) <| .raw (by decide) <|
        .entity (by decide : ("&amp;".toList, '&') ∈ Entity.all) <| Entity.spells_of_plain (by decide)
    have parts : WritesChild "input".toList (Declaration.Input.attributes ⟨"fg", "string", some "<\"&amp;"⟩) _ :=
      .mk [("type", "string"), ("value", "<\"&amp;"), ("name", "fg")] [' '] ['>', '\n']
        ⟨[], by simp, by decide⟩
        (.cons [' '] [' '] [' '] (by decide) (by decide) (by decide) (.inl rfl)
          (Entity.spells_of_plain (by decide)) <|
        .cons [' '] [] [] (by decide) (by decide) (by decide) (.inr rfl) spells <|
        .plain [' '] '\'' (by decide) (by decide) (by decide) (by decide) .nil)
        (by decide) (by decide)
    convert parts using 1
    decide +kernel
  case result =>
    have parts : WritesChild "output".toList (Declaration.outputAttributes ("result", "color3")) _ :=
      .mk [("name", "result"), ("type", "color3")] [] ['\n'] ⟨[], by simp, by decide⟩
        (.plain [' '] '"' (by decide) (by decide) (by decide) (by decide) <|
          .plain [' '] '"' (by decide) (by decide) (by decide) (by decide) .nil)
        (by decide) (by decide)
    convert parts using 1
    decide +kernel
  case second =>
    have parts : WritesChild "input".toList (Declaration.Input.attributes ⟨"bg", "float", none⟩) _ :=
      .mk [("name", "bg"), ("type", "float")] [] ['\n'] ⟨[], by simp, by decide⟩
        (.plain [' '] '"' (by decide) (by decide) (by decide) (by decide) <|
          .plain [' '] '"' (by decide) (by decide) (by decide) (by decide) .nil)
        (by decide) (by decide)
    convert parts using 1
    decide +kernel

/-- The file writes what it declares. -/
theorem writes : Writes declarations text := by
  -- The two definitions are written one by one, the first around its children.
  have front : ¬opening <:+: "<materialx>\n".toList := Text.splitAt?_eq_none_iff.1 (by decide)
  have between : ¬opening <:+: "\n".toList := Text.splitAt?_eq_none_iff.1 (by decide)
  have back : ¬opening <:+: "\n</materialx>".toList := Text.splitAt?_eq_none_iff.1 (by decide)
  -- No definition begins outside the two, and so each ends where it is said to.
  refine .cons front ?mix (.cons between ?add (.nil back))
  case mix =>
    change WritesDefinition declarations[0] mix
    have parts : WritesDefinition declarations[0] _ :=
      .around [("node", "mix"), ("name", "ND_mix"), ("doc", "a > 'b' / c")] [] ['\n']
        ⟨[("doc", "a > 'b' / c")], by decide, by decide⟩
        (.plain [' '] '\'' (by decide) (by decide) (by decide) (by decide) <|
          .plain [' '] '"' (by decide) (by decide) (by decide) (by decide) <|
          .plain [' '] '"' (by decide) (by decide) (by decide) (by decide) .nil)
        (by decide) (by decide) writesChildren
    convert parts using 1
    decide +kernel
  case add =>
    change WritesDefinition declarations[1] add
    have parts : WritesDefinition declarations[1] _ :=
      .empty [("name", "ND_add"), ("node", "add"), ("type", "float")] [] ⟨rfl, rfl⟩
        ⟨[], by simp, by decide⟩
        (.plain [' '] '"' (by decide) (by decide) (by decide) (by decide) <|
        .plain [' '] '"' (by decide) (by decide) (by decide) (by decide) <|
        .plain [' '] '"' (by decide) (by decide) (by decide) (by decide) .nil) (by decide)
    convert parts using 1
    decide +kernel

/-- Both definitions are read from the file. -/
theorem both_read : Writes declarations text ∧ ofText text = declarations.map Declaration.definition :=
  -- The general statement, for the file that was written.
  ⟨writes, (ofText_of_writes writes).1⟩

end Written

end Definition

end ShadeBake

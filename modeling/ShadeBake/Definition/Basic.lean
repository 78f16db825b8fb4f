import ShadeBake.Definition.Markup

/-! Node definitions as definition files declare them. -/

namespace ShadeBake

/-- A declared node type: its category, its value type, its plugs in order and the written defaults of its
inputs. -/
structure Definition where
  name : String
  category : String
  type : String
  inputs : List (String × String)
  outputs : List (String × String)
  inputValues : Dict String
  deriving DecidableEq

namespace Definition

/-- The declared type of an input. -/
def inputType? (definition : Definition) (input : String) : Option String :=
  Dict.lookup input definition.inputs

/-- The name and the type that a tag declares, if it gives both. -/
def plugOf? (tag : Dict String) : Option (String × String) := do
  return (← tag.get? "name", ← tag.get? "type")

/-- The name and the default that a tag declares, if it gives both. -/
def valueOf? (tag : Dict String) : Option (String × String) := do
  return (← tag.get? "name", ← tag.get? "value")

/-- The beginning of a definition's tag. -/
def opening : List Char := "<nodedef".toList

/-- The beginning of a tag is not empty. -/
theorem opening_ne_nil : opening ≠ [] :=
  -- It begins with a bracket.
  List.ne_nil_of_length_pos (by decide)

/-- The tag that ends the children of a definition. -/
def closing : List Char := "</nodedef>".toList

/-- The children after a definition's tag: none of a tag that closes itself, and else all up to the closing
tag or the end. -/
def childrenOf (tag after : List Char) : List Char :=
  if (Text.trimEnd tag).getLast? = some '/' then []
  else
    -- A missing closing tag leaves all that follows as children.
    match Text.splitAt? closing after with
    | some (children, _) => children
    | none => after

/-- The definition that a tag with children declares, if it has a name and a category. Without a type of its
own it has the type of its first output, and without outputs it has one of its own type. -/
def ofParts? (tag children : List Char) : Option Definition := do
  let attributes := Markup.attributes tag
  let inputTags := Markup.tags "input".toList children
  let declared := (Markup.tags "output".toList children).filterMap plugOf?
  -- Without a type of its own a definition has that of its first output.
  let type := (attributes.get? "type").getD ((declared.head?.map (·.2)).getD "")
  let name ← attributes.get? "name"
  let category ← attributes.get? "node"
  return {
    name
    category
    type
    inputs := inputTags.filterMap plugOf?
    outputs := if declared = [] && type ≠ "" then [("out", type)] else declared
    inputValues := Dict.ofList (inputTags.filterMap valueOf?) }

/-- The definitions that a text declares, in order. A definition's tag that is not closed ends the text, and
what follows a tag is searched for further definitions, children included. -/
def ofText (text : List Char) : List Definition :=
  match found : Text.splitAt? opening text with
  | none => []
  | some (_, body) =>
    match cut : Markup.splitTag body with
    | none => []
    | some (tag, after) =>
      have : after.length < text.length :=
        Nat.lt_trans (Markup.length_splitTag_lt cut) (Text.length_splitAt?_lt opening_ne_nil found)
      (ofParts? tag (childrenOf tag after)).toList ++ ofText after
  termination_by text.length

end Definition

end ShadeBake
